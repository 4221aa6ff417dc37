import Mathlib
import Refetch.Source.Load
import Refetch.Proofs.Document.Carrying
import Refetch.Proofs.Document.Echoing
import Refetch.Proofs.Document.Printing

/-!
# Loading texts

A text is loaded from its collapsed form. Of a text without comments that form says the same as
the text, except where the text quotes: the blanks inside quoted and block texts are collapsed
too.

* `Document.parse_collapse` — collapsing a text whose literals are collapsed changes places only
* `Source.load_text` — what a text is loaded to
-/

namespace Refetch

namespace Document

variable {text : String} {d : Document}

theorem complete_of_parse (h : parse text = .ok d) :
    (Scan.ofChars text.toList).complete = true :=
  (ofScan_eq_ok_iff.mp h).1

/-- A text collapses to the same whether or not the blanks in its literals are collapsed first. -/
theorem collapse_collapseLiterals (text : String) :
    Text.collapse (collapseLiterals text) = Text.collapse text := by
  rw [Text.collapse, toList_collapseLiterals, Text.collapseChars,
    Scanner.collapseFrom_collapseLiteralsFrom]
  rfl

/-- Collapsing the literals of a text changes what they say, and nothing else. -/
theorem parse_collapseLiterals (hhash : '#' ∉ text.toList) (hread : parse text = .ok d) :
    ∃ e, parse (collapseLiterals text) = .ok e ∧ e.outline = d.outline ∧
      collapseLiterals (collapseLiterals text) = collapseLiterals text := by
  obtain ⟨hcomplete, hlexemes, hsettled⟩ :=
    Scan.ofChars_collapseLiterals hhash (complete_of_parse hread)
  rw [← toList_collapseLiterals] at hcomplete hlexemes
  obtain ⟨e, he, hrelabel⟩ := ofScan_congr hcomplete hlexemes hread
  refine ⟨e, he, hrelabel, ?_⟩
  rw [collapseLiterals, toList_collapseLiterals, hsettled]
  rfl

/-- Collapsing a text whose literals are collapsed changes nothing that is said. -/
theorem parse_collapse (hhash : '#' ∉ text.toList) (hsettled : collapseLiterals text = text)
    (hread : parse text = .ok d) :
    ∃ e, parse (Text.collapse text) = .ok e ∧ e.Alike d ∧ e.outline = d.outline := by
  have hcomplete := complete_of_parse hread
  have hsettled : Scanner.start.collapseLiteralsFrom false text.toList = text.toList := by
    rw [← toList_collapseLiterals, hsettled]
  obtain ⟨hread', hlexemes⟩ := (Scanner.run_collapseChars hhash hsettled hcomplete).scan_close
  have hcomplete' := hread'.symm.trans hcomplete
  change relabelLexemes .unplacing (Scan.ofChars text.toList).lexemes =
    relabelLexemes .unplacing (Scan.ofChars (Text.collapseChars text.toList)).lexemes at hlexemes
  rw [← Text.toList_collapse] at hcomplete' hlexemes
  obtain ⟨e, he, halike⟩ := ofScan_congr hcomplete' hlexemes hread
  -- the same lexemes, read once more to see that the outlines agree as well
  obtain ⟨e', he', houtline⟩ :=
    ofScan_congr hcomplete' (relabelLexemes_outlining hlexemes) hread
  obtain rfl := Except.ok.inj (he.symm.trans he')
  exact ⟨e, he, halike, houtline⟩

end Document

namespace Source

/-- A text without `#` that is a document is loaded, plain or wrapped, to the document of the text
with its literals collapsed, up to places. So what is loaded differs from what the text itself says
in quoted texts at most, and not even there if the literals of the text are collapsed. -/
theorem load_text {text : String} {d : Document} (hhash : '#' ∉ text.toList)
    (hread : Document.parse text = .ok d) :
    ∃ loaded, (Source.text text).load = .ok loaded ∧ (Source.wrapped text).load = .ok loaded ∧
      (∃ e, Document.parse (collapseLiterals text) = .ok e ∧ loaded.Alike e) ∧
      loaded.outline = d.outline ∧ (collapseLiterals text = text → loaded.Alike d) := by
  obtain ⟨e, he, houtline, hsettled⟩ := Document.parse_collapseLiterals hhash hread
  have hhash' : '#' ∉ (collapseLiterals text).toList := by
    rw [toList_collapseLiterals]
    intro hmem
    rcases Scanner.mem_of_mem_collapseLiteralsFrom hmem with hmem | heq
    · exact hhash hmem
    · cases heq
  obtain ⟨loaded, hloaded, halike, houtline'⟩ := Document.parse_collapse hhash' hsettled he
  rw [Document.collapse_collapseLiterals] at hloaded
  have hload : parseCanonical (Text.collapse text) text = .ok loaded := by
    rw [parseCanonical, hloaded]
  refine ⟨loaded, hload, hload, ⟨e, he, halike⟩, houtline'.trans houtline, fun heq => ?_⟩
  rw [heq, hread] at he
  obtain rfl := Except.ok.inj he
  exact halike

/-- A query for one field whose argument is a text, with the column of its closing brace. -/
def textArgument (text : String) (stop : Nat) : Document :=
  ⟨[⟨.bare, ⟨⟨1, 1⟩, ⟨1, stop⟩⟩,
    [.field ⟨⟨1, 2⟩, none, "a", [("x", .string text)], []⟩ ⟨⟨1, 2⟩, ⟨1, 2⟩⟩ []]⟩]⟩

/-- Such a query, with one space in the text. -/
def oneSpace : String := "\x7ba(x:\"b c\")\x7d"

/-- Such a query, with two spaces in the text. -/
def twoSpaces : String := "\x7ba(x:\"b  c\")\x7d"

theorem parse_one_space : Document.parse oneSpace = .ok (textArgument "b c" 12) := by
  cbv

theorem parse_two_spaces : Document.parse twoSpaces = .ok (textArgument "b  c" 13) := by
  cbv

/-- Such a query, with runs of blanks between its lexemes and inside the text. -/
def blankRuns : String := "\x7b\n\ta (x :  \"b \t c\")\r\n\x7d"

theorem parse_blank_runs :
    ∃ d, Document.parse blankRuns = .ok d ∧ d.print = "\x7b\n  a(x: \"b \\t c\")\n\x7d\n" :=
  ⟨_, by cbv, by cbv⟩

theorem parse_collapseLiterals_blank_runs :
    ∃ e, Document.parse (collapseLiterals blankRuns) = .ok e ∧
      e.print = "\x7b\n  a(x: \"b c\")\n\x7d\n" :=
  ⟨_, by cbv, by cbv⟩

/-- A document with runs of blanks is loaded to what it says, but for the run inside its literal. -/
theorem load_text_of_blank_runs :
    ∃ d loaded, Document.parse blankRuns = .ok d ∧ (Source.text blankRuns).load = .ok loaded ∧
      (Source.wrapped blankRuns).load = .ok loaded ∧ loaded.outline = d.outline ∧
      collapseLiterals blankRuns = "\x7b\n\ta (x :  \"b c\")\r\n\x7d" ∧
      d.print = "\x7b\n  a(x: \"b \\t c\")\n\x7d\n" ∧
      loaded.print = "\x7b\n  a(x: \"b c\")\n\x7d\n" := by
  obtain ⟨d, hread, hprint⟩ := parse_blank_runs
  obtain ⟨loaded, htext, hwrapped, ⟨e, he, halike⟩, houtline, -⟩ := load_text (by decide) hread
  obtain ⟨e', he', hcollapsed⟩ := parse_collapseLiterals_blank_runs
  obtain rfl := Except.ok.inj (he.symm.trans he')
  exact ⟨d, loaded, hread, htext, hwrapped, houtline, by decide, hprint,
    halike.print_eq.trans hcollapsed⟩

/-- A document whose argument holds two spaces is not loaded as it is: they are collapsed before the
text is read. -/
theorem load_text_two_spaces :
    ¬ ∀ text d, '#' ∉ text.toList → Document.parse text = .ok d →
      ∃ loaded, (Source.text text).load = .ok loaded ∧ loaded.Alike d := by
  intro h
  obtain ⟨loaded, hload, halike⟩ := h _ _ (by decide) parse_two_spaces
  have hcollapse : Text.collapse twoSpaces = oneSpace := by decide
  rw [load, parseCanonical, hcollapse, parse_one_space] at hload
  obtain rfl := Except.ok.inj hload
  have hprint := halike.print_eq
  revert hprint
  decide

end Source

end Refetch
