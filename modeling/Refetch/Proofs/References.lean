import Mathlib
import Refetch.Document.Grammar
import Refetch.Proofs.Pruning

/-!
# References

A document refers to fragments by spreads and to variables by values. Adapting a document makes no
new references: each definition goes by the name it had, declares the variables that it declared,
and includes and uses nothing that it did not include or use before. So a document without dangling
references has none after it was adapted.

* `Document.Narrows.refersWithin`, `Document.Prunes.refersWithin` — the two steps make no references
* `Adapter.adaptDocument_refersWithin` — adapting makes none, and leaves none dangling
-/

namespace Refetch

/-! ## Variables in use -/

mutual

/-- The variables in a value, inside lists and objects too. -/
def Value.uses : Value → List String
  | .var name => [name]
  | .list items => itemsUses items
  | .object members => membersUses members
  | _ => []

/-- The variables in some values. -/
def itemsUses : List Value → List String
  | [] => []
  | value :: rest => value.uses ++ itemsUses rest

/-- The variables in some members or arguments. -/
def membersUses : List (String × Value) → List String
  | [] => []
  | (_, value) :: rest => value.uses ++ membersUses rest

end

/-- The variables in the arguments of some directives. -/
def directivesUses (dirs : List Directive) : List String :=
  dirs.flatMap fun dir => membersUses dir.args

/-- The variables in the arguments and directives of a selection itself. -/
def Selection.ownUses : Selection → List String
  | .field head _ _ => membersUses head.args ++ directivesUses head.dirs
  | .spread _ _ dirs => directivesUses dirs
  | .inline _ _ dirs _ _ => directivesUses dirs

/-- The fragment that a selection itself includes by its name, if it includes one. -/
def Selection.ownSpreads : Selection → List String
  | .spread _ name _ => [name]
  | _ => []

namespace Head

/-- The name of a fragment; operations have none by which they can be included. -/
def fragmentName? : Head → Option String
  | fragment _ name _ _ => some name
  | _ => none

/-- The variables that are declared, each with its default. -/
def declarations : Head → List (String × Option Value)
  | operation _ _ _ vars _ => vars.map fun var => (var.name, var.default?)
  | _ => []

/-- The variables in the directives of a definition. -/
def uses : Head → List String
  | bare => []
  | operation _ _ _ _ dirs => directivesUses dirs
  | fragment _ _ _ dirs => directivesUses dirs

end Head

/-! ## References of definitions -/

namespace Definition

/-- The fragments that are included, at any depth. -/
def spreads (definition : Definition) : List String :=
  selectionsGather Selection.ownSpreads definition.body.items

/-- The variables that are used, in arguments and directives at any depth. -/
def uses (definition : Definition) : List String :=
  definition.head.uses ++ selectionsGather Selection.ownUses definition.body.items

/-- The definition is the same fragment as an older one, or an operation with the same variables,
and it includes and uses nothing else and nothing more often. -/
structure RefersWithin (new old : Definition) : Prop where
  /-- a fragment keeps its name -/
  name : new.head.fragmentName? = old.head.fragmentName?
  /-- the same variables are declared, with the same defaults -/
  declares : new.head.declarations = old.head.declarations
  /-- no other fragments are included -/
  spreads : new.spreads.Sublist old.spreads
  /-- no other variables are used -/
  uses : new.uses.Sublist old.uses

theorem RefersWithin.refl (definition : Definition) : definition.RefersWithin definition :=
  ⟨rfl, rfl, List.Sublist.refl _, List.Sublist.refl _⟩

theorem RefersWithin.trans {new middle old : Definition} (h : new.RefersWithin middle)
    (h' : middle.RefersWithin old) : new.RefersWithin old :=
  ⟨h.name.trans h'.name, h.declares.trans h'.declares, h.spreads.trans h'.spreads,
    h.uses.trans h'.uses⟩

end Definition

namespace Document

/-- The definitions are one by one the same and refer to nothing else. -/
def RefersWithin (new old : Document) : Prop :=
  List.Forall₂ Definition.RefersWithin new.definitions old.definitions

/-- The names of all fragments that are defined. -/
def fragmentNames (d : Document) : List String := d.definitions.filterMap (·.head.fragmentName?)

/-- Every fragment that is included is defined. -/
def SpreadsDefined (d : Document) : Prop :=
  ∀ definition ∈ d.definitions, ∀ name ∈ definition.spreads, name ∈ d.fragmentNames

/-- Every variable that an operation uses itself is declared by it. -/
def VariablesDeclared (d : Document) : Prop :=
  ∀ definition ∈ d.definitions, definition.head.fragmentName? = none →
    ∀ name ∈ definition.uses, name ∈ definition.head.declarations.map (·.1)

instance (d : Document) : Decidable d.SpreadsDefined :=
  inferInstanceAs (Decidable (∀ definition ∈ d.definitions, ∀ name ∈ definition.spreads,
    name ∈ d.fragmentNames))

instance (d : Document) : Decidable d.VariablesDeclared :=
  inferInstanceAs (Decidable (∀ definition ∈ d.definitions, definition.head.fragmentName? = none →
    ∀ name ∈ definition.uses, name ∈ definition.head.declarations.map (·.1)))

end Document

/-! ## Pruning makes no references -/

section Prunes

variable {rule : DerivedRule} {old new : Definition}

theorem Head.Retypes.fragmentName?_eq {head head' : Head} (h : head.Retypes head') :
    head'.fragmentName? = head.fragmentName? := by
  cases h <;> rfl

/-- A head with other types uses what it used. -/
theorem Head.Retypes.uses_eq {head head' : Head} (h : head.Retypes head') :
    head'.uses = head.uses := by
  cases h <;> rfl

theorem Head.Retypes.declarations_eq {head head' : Head} (h : head.Retypes head') :
    head'.declarations = head.declarations := by
  cases h with
  | bare => rfl
  | operation kind pos name? dirs hvars =>
    exact VariableDef.map_eq_of_retypes (fun _ _ => rfl) hvars
  | fragment pos name dirs => rfl

/-- A pruned selection spreads itself what the selection did; only what is below it may be less. -/
theorem Selection.Prunes.ownSpreads_eq {item left : Selection} (h : item.Prunes rule left) :
    left.ownSpreads = item.ownSpreads := by
  cases h <;> rfl

theorem Selection.Prunes.ownUses_eq {item left : Selection} (h : item.Prunes rule left) :
    left.ownUses = item.ownUses := by
  cases h <;> rfl

/-- A pruned definition refers within the one it is left of. -/
theorem Definition.Prunes.refersWithin (h : old.Prunes rule new) : new.RefersWithin old where
  name := h.head.fragmentName?_eq
  declares := h.head.declarations_eq
  spreads := h.items.gather_sublist fun _ _ hitem => hitem.ownSpreads_eq
  uses := by
    rw [Definition.uses, Definition.uses, h.head.uses_eq]
    apply (List.Sublist.refl _).append
    exact h.items.gather_sublist fun _ _ hitem => hitem.ownUses_eq

end Prunes

/-! ## Narrowing makes no references -/

/-- What the selections of a field hold is held by the selections that the field is among. -/
theorem IsFirstFieldNamed.gather_sublist {α : Type} {name : String} {items : List Selection}
    {set : SelectionSet} (h : IsFirstFieldNamed name items set) (own : Selection → List α) :
    (selectionsGather own set.items).Sublist (selectionsGather own items) := by
  obtain ⟨head, hfield⟩ := h.exists_gather_sublist own
  exact (List.sublist_append_right _ _).trans hfield

/-- A definition narrowed to what is below one of its fields refers within itself. -/
theorem Definition.refersWithin_of_isFirstFieldNamed {definition : Definition} {name : String}
    {set : SelectionSet} (h : IsFirstFieldNamed name definition.body.items set) :
    Definition.RefersWithin { definition with body := set } definition where
  name := rfl
  declares := rfl
  spreads := h.gather_sublist _
  uses := (List.Sublist.refl _).append (h.gather_sublist _)

namespace Document

variable {d narrowed o new old : Document} {root : String} {rule : DerivedRule}

theorem Prunes.refersWithin (h : d.Prunes rule o) : o.RefersWithin d :=
  List.Forall₂.flip (h.imp fun _ _ hdefinition => hdefinition.refersWithin)

theorem RefersWithin.refl (d : Document) : d.RefersWithin d :=
  List.forall₂_same.mpr fun definition _ => .refl definition

/-- A narrowed document refers within the one it was. -/
theorem Narrows.refersWithin (h : d.Narrows root narrowed) : narrowed.RefersWithin d := by
  obtain ⟨-, rfl⟩ | ⟨-, first, others, set, hd, hset, -, rfl⟩ := h
  · exact .refl narrowed
  · rw [RefersWithin, hd]
    apply List.Forall₂.cons (Definition.refersWithin_of_isFirstFieldNamed hset)
    exact List.forall₂_same.mpr fun definition _ => .refl definition

theorem RefersWithin.trans {middle : Document} (h : new.RefersWithin middle)
    (h' : middle.RefersWithin old) : new.RefersWithin old := by
  obtain ⟨definitions⟩ := new
  obtain ⟨middles⟩ := middle
  obtain ⟨olds⟩ := old
  simp only [RefersWithin] at h h' ⊢
  induction h generalizing olds with
  | nil => exact h'
  | cons hfirst _ ih =>
    cases h' with
    | cons hfirst' hrest' => exact .cons (hfirst.trans hfirst') (ih _ hrest')

/-! ## Nothing dangles -/

/-- No fragment is lost and none is renamed. -/
theorem RefersWithin.fragmentNames_eq (h : new.RefersWithin old) :
    new.fragmentNames = old.fragmentNames := by
  obtain ⟨definitions⟩ := new
  obtain ⟨olds⟩ := old
  simp only [RefersWithin, fragmentNames] at h ⊢
  induction h with
  | nil => rfl
  | cons hfirst _ ih => rw [List.filterMap_cons, List.filterMap_cons, hfirst.name, ih]

/-- Every definition refers within one of the older ones. -/
theorem RefersWithin.exists_old (h : new.RefersWithin old) {definition : Definition}
    (hmem : definition ∈ new.definitions) :
    ∃ older ∈ old.definitions, definition.RefersWithin older := by
  obtain ⟨definitions⟩ := new
  obtain ⟨olds⟩ := old
  simp only [RefersWithin] at h hmem ⊢
  induction h with
  | nil => cases hmem
  | cons hfirst _ ih =>
    rcases List.mem_cons.mp hmem with rfl | hmem
    · exact ⟨_, List.mem_cons_self .., hfirst⟩
    · obtain ⟨older, holder, hrefers⟩ := ih hmem
      exact ⟨older, List.mem_cons_of_mem _ holder, hrefers⟩

/-- If every included fragment was defined, each still is. -/
theorem SpreadsDefined.of_refersWithin (hold : old.SpreadsDefined) (h : new.RefersWithin old) :
    new.SpreadsDefined := by
  intro definition hmem name hname
  obtain ⟨older, holder, hrefers⟩ := h.exists_old hmem
  rw [h.fragmentNames_eq]
  exact hold older holder name (hrefers.spreads.subset hname)

/-- If every used variable was declared, each still is. -/
theorem VariablesDeclared.of_refersWithin (hold : old.VariablesDeclared)
    (h : new.RefersWithin old) : new.VariablesDeclared := by
  intro definition hmem hoperation name hname
  obtain ⟨older, holder, hrefers⟩ := h.exists_old hmem
  rw [hrefers.declares]
  rw [hrefers.name] at hoperation
  exact hold older holder hoperation name (hrefers.uses.subset hname)

end Document

/-- Adapting makes no references. The fragments that are defined stay the same, and definition by
definition the variables that are declared, and nothing is included or used that was not before.
So if all spreads have their fragments and all variables of operations their declarations, they
still have them afterwards. -/
theorem Adapter.adaptDocument_refersWithin (a : Adapter) {d o : Document}
    (h : a.adaptDocument d = .adapted o) :
    o.fragmentNames = d.fragmentNames ∧ o.RefersWithin d ∧
      (d.SpreadsDefined → o.SpreadsDefined) ∧ (d.VariablesDeclared → o.VariablesDeclared) := by
  obtain ⟨narrowed, hnarrows, rfl⟩ := adaptDocument_eq_adapted_iff.mp h
  have hprunes := narrowed.prunes_tidy a.rule a.typePrefix
  have hrefers := hprunes.refersWithin.trans hnarrows.refersWithin
  refine ⟨hrefers.fragmentNames_eq, hrefers, ?_, ?_⟩
  · exact fun hdefined => hdefined.of_refersWithin hrefers
  · exact fun hdeclared => hdeclared.of_refersWithin hrefers

/-- A query in which a type, a fragment and a variable have the same name, and in which the root
field and a derived field use a variable that is not used elsewhere. -/
def sharedNameQuery : String :=
  "query($NS_A:NS_A=1 $n:Int)\x7bpage(id:$n)\x7ba(b:[\x7bc:$NS_A\x7d])...NS_A " ++
    "heroSharp(width:$n)\x7d\x7d fragment NS_A on NS_A\x7bd\x7d"

theorem adaptDocument_sharedNameQuery :
    ∃ d o, Document.parse sharedNameQuery = .ok d ∧
      (Adapter.configured .default "page" "NS").adaptDocument d = .adapted o ∧
        d.SpreadsDefined ∧ d.VariablesDeclared ∧ d.fragmentNames = ["NS_A"] ∧
          o.definitions.map (·.uses) = [["NS_A"], []] :=
  ⟨_, _, by cbv, by cbv, of_decide_eq_true (by cbv), of_decide_eq_true (by cbv), by cbv, by cbv⟩

/-- The type is renamed, and with the root field and the derived field their variable goes out of
use; the fragment and the variables are still there under their names. -/
theorem Adapter.adaptDocument_refersWithin_of_sharedName :
    ∃ d o, Document.parse sharedNameQuery = .ok d ∧
      (Adapter.configured .default "page" "NS").adaptDocument d = .adapted o ∧
        o.definitions.map (·.uses) = [["NS_A"], []] ∧ o.fragmentNames = ["NS_A"] ∧
          o.RefersWithin d ∧ o.SpreadsDefined ∧ o.VariablesDeclared := by
  obtain ⟨d, o, hread, hadapted, hspreads, hvariables, hnames, huses⟩ :=
    adaptDocument_sharedNameQuery
  obtain ⟨hsame, hrefers, hdefined, hdeclared⟩ := Adapter.adaptDocument_refersWithin _ hadapted
  exact ⟨d, o, hread, hadapted, huses, hsame.trans hnames, hrefers, hdefined hspreads,
    hdeclared hvariables⟩

end Refetch
