import Mathlib
import Refetch.Proofs.Document.Spacing
import Refetch.Proofs.Source.Refusing
import Refetch.Proofs.Text.Runs

/-!
# Texts put together

The texts of a query and its fragments are collapsed one by one and then put together, so where a
run of blanks goes on from one text into the next there may be several spaces in a row. Without
quotes that comes to collapsing all of them as one text, whatever else goes on over a seam: a name,
a number, a comment, or a lexeme that cannot be read.

* `Source.loadWith_of_texts` — texts are loaded as the one that they make when each is collapsed
* `Source.loadWith_as_one` — and as the one that they make as supplied
-/

namespace Refetch

namespace Source

variable {query whole : Source} {fragments pieces : List Source} {texts : List String}

/-! ## Pieces that are texts -/

/-- Texts of which some hold anything are loaded as the one that they make when each is
collapsed. -/
theorem loadWith_of_texts (hfragments : fragments ≠ [])
    (htexts : ∀ piece ∈ query :: fragments, piece.isDocument = false)
    (hsome : suppliedText (query :: fragments) ≠ "") :
    query.loadWith fragments =
      parseCanonical (canonicalText (query :: fragments)) (suppliedText (query :: fragments)) := by
  have hfull := hasEmptyDocument_eq_false fun piece hmem => Or.inl (htexts piece hmem)
  have hinText : textDefinitions (query :: fragments) =
      (parseCanonical (canonicalText (query :: fragments))
        (suppliedText (query :: fragments))).map Document.definitions := by
    rw [textDefinitions, if_neg (canonicalText_eq_empty_iff.not.mpr hsome)]
  rw [parseCanonical] at hinText ⊢
  cases hread : Document.parse (canonicalText (query :: fragments)) with
  | error e =>
    rw [hread] at hinText
    exact loadWith_of_error hfragments hfull hinText
  | ok d =>
    rw [hread] at hinText
    obtain ⟨hquery, hrest⟩ := List.forall_mem_cons.mp htexts
    -- texts bring no definitions along but those that are read
    have hready : fragments.flatMap definitions = [] :=
      List.flatMap_eq_nil_iff.mpr fun piece hmem => definitions_of_text (hrest piece hmem)
    obtain ⟨first, others, hdefinitions⟩ :=
      List.exists_cons_of_ne_nil (definitions_ne_nil_of_parse hread)
    obtain ⟨all⟩ := d
    obtain rfl : all = first :: others := hdefinitions
    rw [loadWith_of_ok hfragments hfull hinText, definitions_of_text hquery, hready]
    exact congrArg (fun all => Except.ok (Document.mk all)) (List.append_nil _)

theorem filterMap_text? (h : pieces.map text? = texts.map some) :
    pieces.filterMap text? = texts := by
  have hid : pieces.filterMap text? = (pieces.map text?).filterMap id := by
    rw [List.filterMap_map]
    rfl
  rw [hid, h, List.filterMap_map]
  exact List.filterMap_some

theorem isDocument_of_texts (h : pieces.map text? = texts.map some) :
    ∀ piece ∈ pieces, piece.isDocument = false := by
  intro piece hmem
  have htext : piece.text? ∈ texts.map some := h ▸ List.mem_map_of_mem hmem
  obtain ⟨text, -, htext⟩ := List.mem_map.mp htext
  exact isDocument_of_text htext.symm

/-- Pieces that are all texts are put together collapsed one by one. -/
theorem canonicalText_of_texts (h : pieces.map text? = texts.map some) :
    canonicalText pieces = String.join (texts.map Text.collapse) := by
  rw [canonicalText, filterMap_canonical?, filterMap_text? h]

/-! ## The texts as one -/

/-- Collapsed texts, put together, say what they say when they are collapsed as one. -/
theorem readAlike_join_collapse (hquote : ∀ text ∈ texts, '"' ∉ text.toList) :
    Document.ReadAlike (String.join (texts.map Text.collapse))
      (Text.collapse (String.join texts)) := by
  rw [← Text.collapse_join]
  have hmem : ∀ c ∈ (String.join (texts.map Text.collapse)).toList,
      ∃ text ∈ texts, c ∈ Text.collapseChars text.toList := by
    intro c hc
    rw [String.toList_join, List.mem_flatMap] at hc
    obtain ⟨collapsed, hcollapsed, hc⟩ := hc
    obtain ⟨text, htext, rfl⟩ := List.mem_map.mp hcollapsed
    rw [Text.toList_collapse] at hc
    exact ⟨text, htext, hc⟩
  apply Document.parse_collapse_spaces
  · intro c hc hblank
    obtain ⟨text, -, hc⟩ := hmem c hc
    exact Text.eq_space_of_mem_collapseChars hc hblank
  · intro hc
    obtain ⟨text, htext, hc⟩ := hmem _ hc
    rcases Text.mem_collapseFrom hc with heq | ⟨hin, -⟩
    · cases heq
    · exact hquote text htext hin

/-- A query and fragments that are texts without quotes, not all of them empty, are loaded as the
single text that they make as supplied: both are loaded, to documents that are equal up to places,
or neither is, and then the same text is reported. -/
theorem loadWith_as_one (hfragments : fragments ≠ [])
    (htexts : (query :: fragments).map text? = texts.map some)
    (hquote : ∀ text ∈ texts, '"' ∉ text.toList) (hsome : ∃ text ∈ texts, text ≠ "")
    (hwhole : whole.text? = some (String.join texts)) :
    (∃ d d', query.loadWith fragments = .ok d ∧ whole.load = .ok d' ∧ d.Alike d') ∨
      ∃ pos pos', query.loadWith fragments = .error (.parseFailure pos (String.join texts)) ∧
        whole.load = .error (.parseFailure pos' (String.join texts)) := by
  have hsupplied : suppliedText (query :: fragments) = String.join texts := by
    rw [suppliedText, filterMap_text? htexts]
  have hne : suppliedText (query :: fragments) ≠ "" := by
    obtain ⟨text, hmem, htext⟩ := hsome
    rw [hsupplied, ne_eq, join_eq_empty_iff]
    exact fun hall => htext (hall text hmem)
  rw [loadWith_of_texts hfragments (isDocument_of_texts htexts) hne, hsupplied,
    canonicalText_of_texts htexts, load_of_text (isDocument_of_text hwhole),
    canonicalText_singleton hwhole, suppliedText_singleton hwhole, parseCanonical, parseCanonical]
  rcases readAlike_join_collapse hquote with ⟨d, d', hd, hd', halike⟩ | ⟨e, e', he, he'⟩
  · rw [hd, hd']
    exact Or.inl ⟨d, d', rfl, rfl, halike⟩
  · rw [he, he']
    exact Or.inr ⟨e.pos, e'.pos, rfl, rfl⟩

/-- A query with a run of blanks and a comment. -/
def wholeText : String := "\x7bpage \n\n b\x7d #  c \x7d"

/-- Its parts, when it is cut in a name, in the run of blanks and in the comment. -/
def cutTexts : List String := ["\x7bpa", "ge \n", "\n b\x7d # ", " c \x7d"]

theorem join_cutTexts : String.join cutTexts = wholeText := by decide

theorem load_wholeText : ∃ d, (Source.text wholeText).load = .ok d := ⟨_, by cbv⟩

/-- The query is loaded from its parts as it is loaded itself. -/
theorem loadWith_as_one_of_cuts :
    ∃ d d', (Source.text "\x7bpa").loadWith
        [.text "ge \n", .wrapped "\n b\x7d # ", .text " c \x7d"] = .ok d ∧
      (Source.text wholeText).load = .ok d' ∧ d.Alike d' := by
  have htexts : [Source.text "\x7bpa", .text "ge \n", .wrapped "\n b\x7d # ",
      .text " c \x7d"].map text? = cutTexts.map some := rfl
  have hquote : ∀ text ∈ cutTexts, '"' ∉ text.toList := by decide
  have hsome : ∃ text ∈ cutTexts, text ≠ "" := by decide
  have hwhole : (Source.text wholeText).text? = some (String.join cutTexts) :=
    congrArg some join_cutTexts.symm
  rcases loadWith_as_one (List.cons_ne_nil _ _) htexts hquote hsome hwhole with
    hboth | ⟨-, pos, -, herror⟩
  · exact hboth
  · obtain ⟨d, hd⟩ := load_wholeText
    cases hd.symm.trans herror

end Source

end Refetch
