import Refetch.Proofs.Document.Answering
import Refetch.Proofs.Source.Composing

/-!
# What cannot be loaded

Loading a query with its fragments fails for one of two reasons. Either there are no definitions,
because a document among the pieces has none or because there is neither text nor a document; or
the texts, put together, are no document. The first goes before the second. The text that is
reported is the one that was supplied, although it is its collapsed form that is read. The reader
never breaks down over that form, which has no blanks but spaces.

* `Source.canonicalText_eq_empty_iff` — whether there is any text, before collapsing and after
* `Source.Unreadable.eq_refused` — collapsed texts that are no document are refused at some place
* `Source.loadWith_fails_iff` — which pieces cannot be loaded, and with which reason
-/

namespace Refetch

namespace Source

variable {query : Source} {fragments pieces : List Source} {e : ParseError}

/-! ## Text that is there -/

theorem join_eq_empty_iff {texts : List String} :
    String.join texts = "" ↔ ∀ text ∈ texts, text = "" := by
  induction texts with
  | nil => simp
  | cons text rest ih =>
    rw [String.join_cons, String.append_eq_empty_iff, List.forall_mem_cons, ih]

/-- What was supplied is empty when each text of the pieces is. -/
theorem suppliedText_eq_empty_iff :
    suppliedText pieces = "" ↔ ∀ text ∈ pieces.filterMap text?, text = "" :=
  join_eq_empty_iff

theorem filterMap_canonical? :
    pieces.filterMap canonical? = (pieces.filterMap text?).map Text.collapse := by
  rw [List.map_filterMap]
  rfl

/-- Collapsing leaves some text where there is some. -/
theorem canonicalText_eq_empty_iff : canonicalText pieces = "" ↔ suppliedText pieces = "" := by
  rw [suppliedText_eq_empty_iff, canonicalText, join_eq_empty_iff, filterMap_canonical?,
    List.forall_mem_map]
  exact forall₂_congr fun text _ => Text.collapse_eq_empty_iff

/-! ## The two reasons -/

/-- A document among the pieces has no definitions, or the pieces are a query with fragments, all
of them empty texts. -/
def HoldNothing (query : Source) (fragments : List Source) : Prop :=
  (∃ ready, .document ready ∈ query :: fragments ∧ ready.definitions = []) ∨
    (fragments ≠ [] ∧ ∀ piece ∈ query :: fragments, piece.text? = some "")

/-- There is text in the pieces, or the query alone is a text, and what is left of the texts when
each is collapsed is no document. -/
def Unreadable (query : Source) (fragments : List Source) (e : ParseError) : Prop :=
  (suppliedText (query :: fragments) ≠ "" ∨ (fragments = [] ∧ query.isDocument = false)) ∧
    Document.parse (canonicalText (query :: fragments)) = .error e

/-- The reader answers the collapsed texts, so it is at their place that they are refused. -/
theorem Unreadable.eq_refused (h : Unreadable query fragments e) : e = .refused e.pos := by
  have hblanks : Text.NarrowBlanks (canonicalText (query :: fragments)).toList :=
    Text.narrowBlanks_of_spaces fun c => eq_space_of_mem_canonicalText
  cases e with
  | refused pos => rfl
  | crash pos => exact absurd h.2 (Document.parse_ne_crash hblanks pos)

/-- The check for documents without definitions finds one exactly if there is one. -/
theorem hasEmptyDocument_iff :
    hasEmptyDocument pieces = true ↔
      ∃ ready, .document ready ∈ pieces ∧ ready.definitions = [] := by
  rw [hasEmptyDocument, List.any_eq_true]
  constructor
  · rintro ⟨piece, hmem, hempty⟩
    cases piece with
    | document ready => exact ⟨ready, hmem, by simpa [definitions, isDocument] using hempty⟩
    | text supplied => cases hempty
    | wrapped supplied => cases hempty
  · rintro ⟨ready, hmem, hempty⟩
    exact ⟨_, hmem, by simp [definitions, isDocument, hempty]⟩

theorem hasEmptyDocument_of_not_holdNothing (h : ¬ HoldNothing query fragments) :
    hasEmptyDocument (query :: fragments) = false := by
  rw [← Bool.not_eq_true, hasEmptyDocument_iff]
  exact fun hempty => h (Or.inl hempty)

/-! ## A query alone -/

/-- Without fragments a query is loaded by itself. -/
theorem loadWith_nil (query : Source) : query.loadWith [] = query.load := rfl

theorem isDocument_of_text {piece : Source} {supplied : String} (h : piece.text? = some supplied) :
    piece.isDocument = false := by
  cases piece with
  | document ready => cases h
  | text given => rfl
  | wrapped given => rfl

theorem canonicalText_singleton {supplied : String} (h : query.text? = some supplied) :
    canonicalText [query] = Text.collapse supplied := by
  simp [canonicalText, canonical?, h]

theorem suppliedText_singleton {supplied : String} (h : query.text? = some supplied) :
    suppliedText [query] = supplied := by
  simp [suppliedText, h]

/-- A text alone is read as its collapsed form, and is itself what is reported. -/
theorem load_of_text (h : query.isDocument = false) :
    query.load = parseCanonical (canonicalText [query]) (suppliedText [query]) := by
  cases query with
  | document ready => cases h
  | text supplied => rw [canonicalText_singleton rfl, suppliedText_singleton rfl, load]
  | wrapped supplied => rw [canonicalText_singleton rfl, suppliedText_singleton rfl, load]

/-! ## A query with fragments -/

section Fragments

variable (hfragments : fragments ≠ [])

include hfragments

/-- With fragments, empty documents are looked for first, then the texts are read, and then the
definitions are put together. -/
theorem loadWith_of_ne_nil :
    query.loadWith fragments =
      if hasEmptyDocument (query :: fragments) then .error .emptyDocument
      else (textDefinitions (query :: fragments)).bind fun inText =>
        match query.definitions ++ inText ++ fragments.flatMap definitions with
        | [] => .error .emptyDocument
        | all => .ok ⟨all⟩ := by
  rw [loadWith, if_neg (by simpa using hfragments)]
  rfl

variable (hfull : hasEmptyDocument (query :: fragments) = false)

include hfull

/-- An error among the texts is the error of the whole. -/
theorem loadWith_of_error {reason : LoadError}
    (h : textDefinitions (query :: fragments) = .error reason) :
    query.loadWith fragments = .error reason := by
  rw [loadWith_of_ne_nil hfragments, hfull, h]
  rfl

/-- If the texts are read, the query's own definitions come first, then those of the texts, then
those of the fragments that are documents. -/
theorem loadWith_of_ok {inText : List Definition}
    (h : textDefinitions (query :: fragments) = .ok inText) :
    query.loadWith fragments =
      match query.definitions ++ inText ++ fragments.flatMap definitions with
      | [] => .error .emptyDocument
      | all => .ok ⟨all⟩ := by
  rw [loadWith_of_ne_nil hfragments, hfull, h]
  rfl

end Fragments

/-! ## How loading ends -/

/-- Pieces that hold nothing are refused before any text is read. -/
theorem loadWith_of_holdNothing (h : HoldNothing query fragments) :
    query.loadWith fragments = .error .emptyDocument := by
  rcases h with ⟨ready, hmem, hempty⟩ | ⟨hfragments, hall⟩
  · by_cases hfragments : fragments = []
    · subst hfragments
      obtain rfl := List.mem_singleton.mp hmem
      rw [loadWith_nil, load, if_pos (by simp [hempty])]
    · have hfound := hasEmptyDocument_iff.mpr ⟨ready, hmem, hempty⟩
      rw [loadWith_of_ne_nil hfragments, if_pos hfound]
  · have htexts : ∀ piece ∈ query :: fragments, piece.isDocument = false :=
      fun piece hmem => isDocument_of_text (hall piece hmem)
    have hfull := hasEmptyDocument_eq_false fun piece hmem => Or.inl (htexts piece hmem)
    have hnone : suppliedText (query :: fragments) = "" := by
      rw [suppliedText_eq_empty_iff]
      intro text hmem
      obtain ⟨piece, hpiece, htext⟩ := List.mem_filterMap.mp hmem
      exact Option.some.inj (htext.symm.trans (hall piece hpiece))
    have hinText := textDefinitions_eq_ok_iff.mpr
      (Or.inl ⟨canonicalText_eq_empty_iff.mpr hnone, rfl⟩)
    -- texts bring no definitions along
    have hready : (query :: fragments).flatMap definitions = [] :=
      List.flatMap_eq_nil_iff.mpr fun piece hmem => definitions_of_text (htexts piece hmem)
    rw [List.flatMap_cons, List.append_eq_nil_iff] at hready
    rw [loadWith_of_ok hfragments hfull hinText, hready.1, hready.2]
    rfl

/-- Texts that are no document are refused with the place the reader stopped at and the texts as
supplied. -/
theorem loadWith_of_unreadable (hsome : ¬ HoldNothing query fragments)
    (h : Unreadable query fragments e) :
    query.loadWith fragments =
      .error (.parseFailure e.pos (suppliedText (query :: fragments))) := by
  obtain ⟨htext, hread⟩ := h
  by_cases hfragments : fragments = []
  · subst hfragments
    have hquery : query.isDocument = false := by
      rcases htext with htext | ⟨-, hquery⟩
      · cases query with
        | document ready => exact absurd rfl htext
        | _ => rfl
      · exact hquery
    rw [loadWith_nil, load_of_text hquery, parseCanonical, hread]
  · have hne : canonicalText (query :: fragments) ≠ "" := by
      rw [ne_eq, canonicalText_eq_empty_iff]
      exact htext.resolve_right fun h => hfragments h.1
    apply loadWith_of_error hfragments (hasEmptyDocument_of_not_holdNothing hsome)
    rw [textDefinitions, if_neg hne, parseCanonical, hread]
    rfl

/-- Without text and with no document empty, some piece brings definitions along. -/
theorem definitions_ne_nil_of_no_text (hfragments : fragments ≠ [])
    (hsome : ¬ HoldNothing query fragments) (htext : suppliedText (query :: fragments) = "") :
    query.definitions ++ fragments.flatMap definitions ≠ [] := by
  rw [← List.flatMap_cons, ne_eq, List.flatMap_eq_nil_iff]
  rw [suppliedText_eq_empty_iff] at htext
  intro hnone
  refine hsome (Or.inr ⟨hfragments, fun piece hmem => ?_⟩)
  cases piece with
  | document ready => exact absurd (Or.inl ⟨ready, hmem, hnone _ hmem⟩) hsome
  | text supplied => exact congrArg some (htext _ (List.mem_filterMap.mpr ⟨_, hmem, rfl⟩))
  | wrapped supplied => exact congrArg some (htext _ (List.mem_filterMap.mpr ⟨_, hmem, rfl⟩))

theorem definitions_ne_nil_of_parse {text : String} {d : Document}
    (h : Document.parse text = .ok d) : d.definitions ≠ [] :=
  Grammar.document_definitions_ne_nil (Document.ofScan_eq_ok_iff.mp h).2

/-- In every other case something loads, and it has a definition. -/
theorem exists_loadWith (hsome : ¬ HoldNothing query fragments)
    (hreadable : ∀ e, ¬ Unreadable query fragments e) :
    ∃ loaded, query.loadWith fragments = .ok loaded ∧ loaded.definitions ≠ [] := by
  by_cases hfragments : fragments = []
  · subst hfragments
    rw [loadWith_nil]
    cases hquery : query.isDocument with
    | true =>
      cases query with
      | document ready =>
        have hne : ready.definitions ≠ [] := fun hempty =>
          hsome (Or.inl ⟨ready, List.mem_cons_self .., hempty⟩)
        exact ⟨ready, load_document hne, hne⟩
      | _ => cases hquery
    | false =>
      rw [load_of_text hquery, parseCanonical]
      cases hread : Document.parse (canonicalText [query]) with
      | error e => exact absurd ⟨Or.inr ⟨rfl, hquery⟩, hread⟩ (hreadable e)
      | ok d => exact ⟨d, rfl, definitions_ne_nil_of_parse hread⟩
  · have hfull := hasEmptyDocument_of_not_holdNothing hsome
    suffices h : ∃ inText, textDefinitions (query :: fragments) = .ok inText ∧
        query.definitions ++ inText ++ fragments.flatMap definitions ≠ [] by
      obtain ⟨inText, hinText, hne⟩ := h
      exact ⟨_, (loadWith_eq_ok_iff hfragments).mpr ⟨hfull, hne, inText, hinText, rfl⟩, hne⟩
    by_cases htext : suppliedText (query :: fragments) = ""
    · have hblank := canonicalText_eq_empty_iff.mpr htext
      refine ⟨[], textDefinitions_eq_ok_iff.mpr (Or.inl ⟨hblank, rfl⟩), ?_⟩
      rw [List.append_nil]
      exact definitions_ne_nil_of_no_text hfragments hsome htext
    · cases hread : Document.parse (canonicalText (query :: fragments)) with
      | error e => exact absurd ⟨Or.inl htext, hread⟩ (hreadable e)
      | ok d =>
        refine ⟨d.definitions, textDefinitions_eq_ok_iff.mpr (Or.inr hread), ?_⟩
        exact List.append_ne_nil_of_left_ne_nil
          (List.append_ne_nil_of_right_ne_nil _ (definitions_ne_nil_of_parse hread)) _

/-- Loading a query with its fragments fails if the pieces hold nothing; else if their texts are no
document, and then the texts as supplied are reported, those of the query and of the fragments in
their order, with nothing of the documents among them. Else it succeeds, with a definition at
least. It fails for no other reason. -/
theorem loadWith_fails_iff (query : Source) (fragments : List Source) :
    (∀ reason, query.loadWith fragments = .error reason ↔
      (HoldNothing query fragments ∧ reason = .emptyDocument) ∨
        (¬ HoldNothing query fragments ∧ ∃ e, Unreadable query fragments e ∧
          reason = .parseFailure e.pos (String.join ((query :: fragments).filterMap text?)))) ∧
    ((∃ loaded, query.loadWith fragments = .ok loaded) ↔
      ¬ HoldNothing query fragments ∧ ∀ e, ¬ Unreadable query fragments e) ∧
    ∀ loaded, query.loadWith fragments = .ok loaded → loaded.definitions ≠ [] := by
  by_cases hnothing : HoldNothing query fragments
  · have hload := loadWith_of_holdNothing hnothing
    rw [hload]
    simp [hnothing, eq_comm]
  · by_cases hreadable : ∀ e, ¬ Unreadable query fragments e
    · obtain ⟨loaded, hload, hne⟩ := exists_loadWith hnothing hreadable
      rw [hload]
      simp [hnothing, hreadable, hne]
    · obtain ⟨e, he⟩ := Classical.not_forall_not.mp hreadable
      have hload := loadWith_of_unreadable hnothing he
      -- there is only one way in which the texts are no document
      have hunique : ∀ e', Unreadable query fragments e' → e' = e := fun e' he' =>
        Except.error.inj (he'.2.symm.trans he.2)
      rw [hload]
      refine ⟨fun reason => ⟨fun h => ?_, ?_⟩, ⟨?_, fun h => absurd he (h.2 e)⟩, ?_⟩
      · exact Or.inr ⟨hnothing, e, he, (Except.error.inj h).symm⟩
      · rintro (⟨h, -⟩ | ⟨-, e', he', rfl⟩)
        · exact absurd h hnothing
        · rw [hunique e' he', suppliedText]
      · rintro ⟨loaded, h⟩
        cases h
      · intro loaded h
        cases h

end Source

end Refetch
