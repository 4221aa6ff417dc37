import Refetch.Proofs.Pruning
import Refetch.Proofs.Source.HandingOver

/-!
# Places

Where the nodes of a document stand in the text it was read from does not matter to adapting it,
and what is left of a document still stands where it stood.

* `Document.Prunes.places_sublist`, `Document.Narrows.places_sublist` — the two steps make up no
  places
* `Adapter.adaptDocument_places` — places make no difference, and stay with their nodes
-/

namespace Refetch

/-! ## The places of a document -/

/-- Where the braces stand. -/
def Span.places (span : Span) : List Pos := [span.start, span.stop]

/-- Where the directives stand. -/
def directivesPlaces (dirs : List Directive) : List Pos := dirs.map (·.pos)

/-- The places of a selection itself: its own, those of its directives and of its braces. -/
def Selection.ownPlaces : Selection → List Pos
  | .field head span _ => head.pos :: directivesPlaces head.dirs ++ span.places
  | .spread pos _ dirs => pos :: directivesPlaces dirs
  | .inline pos _ dirs span _ => pos :: directivesPlaces dirs ++ span.places

/-- The places in the head of a definition. -/
def Head.places : Head → List Pos
  | .bare => []
  | .operation _ pos _ vars dirs => pos :: vars.map (·.pos) ++ directivesPlaces dirs
  | .fragment pos _ _ dirs => pos :: directivesPlaces dirs

/-- The places of a selection set, those of its braces first. -/
def SelectionSet.places (set : SelectionSet) : List Pos :=
  set.span.places ++ selectionsGather Selection.ownPlaces set.items

/-- The places of a definition. -/
def Definition.places (definition : Definition) : List Pos :=
  definition.head.places ++ definition.body.places

/-- All places of a document. -/
def Document.places (d : Document) : List Pos := d.definitions.flatMap (·.places)

/-! ## No places are made up -/

section Sublist

variable {rule : DerivedRule}

theorem Head.Retypes.places_eq {head head' : Head} (h : head.Retypes head') :
    head'.places = head.places := by
  cases h with
  | bare => rfl
  | operation kind pos name? dirs hvars =>
    rw [Head.places, Head.places, VariableDef.map_eq_of_retypes (fun _ _ => rfl) hvars]
  | fragment pos name dirs => rfl

theorem Selection.Prunes.ownPlaces_eq {item left : Selection} (h : item.Prunes rule left) :
    left.ownPlaces = item.ownPlaces := by
  cases h <;> rfl

/-- The places in a pruned definition are some of those there were, in order. -/
theorem Definition.Prunes.places_sublist {old new : Definition} (h : old.Prunes rule new) :
    new.places.Sublist old.places := by
  rw [Definition.places, Definition.places, SelectionSet.places, SelectionSet.places,
    h.head.places_eq, h.span]
  apply (List.Sublist.refl _).append
  apply (List.Sublist.refl _).append
  exact h.items.gather_sublist fun _ _ hitem => hitem.ownPlaces_eq

/-- The places of a field's set are among those of the selections that the field is among. -/
theorem IsFirstFieldNamed.places_sublist {name : String} {items : List Selection}
    {set : SelectionSet} (h : IsFirstFieldNamed name items set) :
    set.places.Sublist (selectionsGather Selection.ownPlaces items) := by
  obtain ⟨head, hfield⟩ := h.exists_gather_sublist Selection.ownPlaces
  rw [Selection.ownPlaces, List.append_assoc] at hfield
  exact (List.sublist_append_right _ _).trans hfield

namespace Document

variable {d narrowed o : Document} {root : String}

theorem Prunes.places_sublist (h : d.Prunes rule o) : o.places.Sublist d.places := by
  obtain ⟨olds⟩ := d
  obtain ⟨definitions⟩ := o
  simp only [Prunes, places] at h ⊢
  induction h with
  | nil => exact List.Sublist.refl _
  | cons hfirst _ ih =>
    rw [List.flatMap_cons, List.flatMap_cons]
    exact hfirst.places_sublist.append ih

theorem Narrows.places_sublist (h : d.Narrows root narrowed) :
    narrowed.places.Sublist d.places := by
  obtain ⟨-, rfl⟩ | ⟨-, first, others, set, hd, hset, -, rfl⟩ := h
  · exact List.Sublist.refl _
  · rw [places, places, hd, List.flatMap_cons, List.flatMap_cons]
    apply List.Sublist.append _ (List.Sublist.refl _)
    apply (List.Sublist.refl first.head.places).append
    exact hset.places_sublist.trans (List.sublist_append_right _ _)

end Document

end Sublist

/-! ## Adapting -/

namespace Adapter

/-- Documents that are equal up to places are adapted to outcomes that are. And what a document is
adapted to holds no other places than the document, each with the node that had it: all places
are those of the document narrowed, in which the set of the root field stands with its own braces,
and what is left when derived fields are left out keeps its places. -/
theorem adaptDocument_places (a : Adapter) :
    (∀ d e : Document, d.Alike e →
        (a.adaptDocument d).diagnostics = (a.adaptDocument e).diagnostics ∧
          Option.Rel Document.Alike (a.adaptDocument d).document? (a.adaptDocument e).document?) ∧
      ∀ d o, a.adaptDocument d = .adapted o →
        o.places.Sublist d.places ∧
          ∃ narrowed, d.Narrows a.rootField narrowed ∧ narrowed.Prunes a.rule o := by
  constructor
  · intro d e halike
    obtain ⟨hdiagnostics, hdocuments⟩ := adaptDocument_agrees a halike
    refine ⟨hdiagnostics, ?_⟩
    obtain ⟨hd, he⟩ | ⟨o, o', hd, he, ho, -⟩ := hdocuments
    · rw [hd, he]
      exact .none
    · rw [hd, he]
      exact .some ho
  · intro d o hadapted
    obtain ⟨narrowed, hnarrows, rfl⟩ := adaptDocument_eq_adapted_iff.mp hadapted
    have hprunes := narrowed.prunes_tidy a.rule a.typePrefix
    exact ⟨hprunes.places_sublist.trans hnarrows.places_sublist, narrowed, hnarrows, hprunes⟩

/-- A query on one line. -/
def lineQuery : String :=
  "query($a:NS_T)@x\x7bpage@x\x7bheroSharp ...on NS_T@y\x7bb\x7d\x7d\x7d"

/-- The same query over several lines. -/
def linesQuery : String :=
  "query($a: NS_T) @x \x7b\n  page @x \x7b\n    heroSharp\n    ... on NS_T @y \x7bb\x7d\n  \x7d\n\x7d"

/-- The places that are left of the query over several lines: the operation, its variable and its
directive; the braces of the root field; the fragment in place, its directive and its braces; the
field in it, whose braces are missing and stand where it stands. -/
def placesLeft : List Pos :=
  [⟨1, 1⟩, ⟨1, 7⟩, ⟨1, 17⟩, ⟨2, 11⟩, ⟨5, 3⟩, ⟨4, 9⟩, ⟨4, 17⟩, ⟨4, 20⟩, ⟨4, 22⟩, ⟨4, 21⟩, ⟨4, 21⟩,
    ⟨4, 21⟩]

theorem adaptDocument_linesQuery :
    ∃ d e o, Document.parse linesQuery = .ok d ∧ Document.parse lineQuery = .ok e ∧ d.Alike e ∧
      (configured .default "page" "NS").adaptDocument d = .adapted o ∧ o.places = placesLeft :=
  ⟨_, _, _, by cbv, by cbv, by cbv, by cbv, by cbv⟩

/-- A query over several lines and the same on one line. -/
theorem adaptDocument_places_of_lines :
    let a := configured .default "page" "NS"
    ∃ d e o, Document.parse linesQuery = .ok d ∧ Document.parse lineQuery = .ok e ∧ d.Alike e ∧
      a.adaptDocument d = .adapted o ∧
        Option.Rel Document.Alike (some o) (a.adaptDocument e).document? ∧ o.places = placesLeft ∧
          placesLeft.Sublist d.places ∧
            ∃ narrowed, d.Narrows "page" narrowed ∧ narrowed.Prunes .default o := by
  intro a
  obtain ⟨d, e, o, hd, he, halike, hadapted, hplaces⟩ := adaptDocument_linesQuery
  obtain ⟨hrel, hkept⟩ := adaptDocument_places a
  have hdocuments := (hrel d e halike).2
  obtain ⟨hsublist, hnarrowed⟩ := hkept d o hadapted
  rw [hadapted] at hdocuments
  rw [hplaces] at hsublist
  exact ⟨d, e, o, hd, he, halike, hadapted, hdocuments, hplaces, hsublist, hnarrowed⟩

end Adapter

end Refetch
