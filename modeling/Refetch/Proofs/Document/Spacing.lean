import Refetch.Proofs.Document.Carrying
import Refetch.Proofs.Document.Collapsing

/-!
# Runs of spaces

Outside literals a second space in a row is without effect: after the first, the scanner is between
two lexemes or in a comment, or has stopped. So a text without quotes, whose only blanks are spaces,
is read from its collapsed form as it is, up to places. In contrast to other blanks a space is in
place wherever it collapses to one, so this goes for texts that cannot be read as well, and in
comments.

* `Scanner.run_collapse_spaces` — scanners of such a text and of the collapsed text go alike
* `Document.parse_collapse_spaces` — both are documents, equal up to places, or neither is
-/

namespace Refetch

open Text (isBlank collapseFrom collapseChars collapseFrom_blank collapseFrom_other)

/-! ## Scanners that wait -/

/-- Does a space do no more than move the place? -/
def Mode.Waiting : Mode → Prop
  | .between => True
  | .comment => True
  | .malformed .. => True
  | _ => False

namespace Scanner

variable {s u : Scanner}

theorem waiting_resume_emit (s : Scanner) (start : Pos) (token? : Option Token) :
    ((s.emit start token?).resume ' ').mode.Waiting := by
  cases token? with
  | none => trivial
  | some token => trivial

/-- After a space a scanner waits, unless the space is part of a literal. -/
theorem waiting_step_space (hs : s.mode.inLiteral = false) : (s.step ' ').mode.Waiting := by
  obtain ⟨pos, mode, found⟩ := s
  cases mode with
  | between => trivial
  | comment => trivial
  | name start text =>
    exact waiting_resume_emit ⟨pos, .name start text, found⟩ start (some (nameToken text))
  | number start text =>
    exact waiting_resume_emit ⟨pos, .number start text, found⟩ start
      (Literal.number? text.reverse)
  | dots start two => trivial
  | quotes start two =>
    cases two with
    | true =>
      rw [step_quotes_end (by decide)]
      exact waiting_resume_emit _ start _
    | false => cases hs
  | string start escaped text => cases hs
  | block start run held text => cases hs
  | malformed start fault => trivial

/-- Where a lexeme is awaited, a space moves the place and nothing else. -/
theorem step_space_of_waiting (hs : s.mode.Waiting) : (s.step ' ').Alike s := by
  obtain ⟨pos, mode, found⟩ := s
  cases mode with
  | between => exact begin_space _
  | comment => rfl
  | malformed start fault => rfl
  | _ => exact hs.elim

/-- Scanners that are alike stay so when one of them reads a text without quotes, whose blanks are
spaces, and the other one the collapsed text. Inside a run of spaces the first waits, which is why
it may read a space for which there is none in the collapsed text. -/
theorem run_collapse_spaces {inRun : Bool} {text : List Char}
    (hspaces : ∀ c ∈ text, isBlank c = true → c = ' ') (hquote : '"' ∉ text)
    (hs : s.mode.inLiteral = false) (hrun : inRun = true → s.mode.Waiting) (halike : s.Alike u) :
    (s.run text).Alike (u.run (collapseFrom inRun text)) := by
  induction text generalizing s u inRun with
  | nil => exact halike
  | cons c rest ih =>
    obtain ⟨hspace, hrest⟩ := List.forall_mem_cons.mp hspaces
    rw [List.mem_cons, not_or] at hquote
    have hnext : (s.step c).mode.inLiteral = false :=
      step_not_inLiteral hs (Ne.symm hquote.1)
    cases hc : isBlank c with
    | false =>
      rw [collapseFrom_other hc]
      exact ih hrest hquote.2 hnext Bool.noConfusion (halike.step c)
    | true =>
      obtain rfl := hspace hc
      have hwaiting : true = true → (s.step ' ').mode.Waiting := fun _ => waiting_step_space hs
      rw [collapseFrom_blank hc]
      cases inRun with
      | true =>
        have hstays := step_space_of_waiting (hrun rfl)
        exact ih hrest hquote.2 hnext hwaiting (hstays.trans halike)
      | false => exact ih hrest hquote.2 hnext hwaiting (halike.step ' ')

end Scanner

/-! ## Documents -/

namespace Document

/-- Do two texts say the same? Both are read to documents that are equal up to places, or neither
is a document. -/
def ReadAlike (text text' : String) : Prop :=
  (∃ d d', parse text = .ok d ∧ parse text' = .ok d' ∧ d.Alike d') ∨
    ∃ e e', parse text = .error e ∧ parse text' = .error e'

/-- Texts that leave scanners alike are read alike. -/
theorem exists_parse_of_alike {text text' : String} {d : Document}
    (halike : (Scanner.start.run text.toList).Alike (Scanner.start.run text'.toList))
    (h : parse text = .ok d) : ∃ d', parse text' = .ok d' ∧ d.Alike d' := by
  obtain ⟨hcomplete, hlexemes⟩ := halike.scan_close
  obtain ⟨hread, -⟩ := ofScan_eq_ok_iff.mp h
  obtain ⟨d', hd', hrelabel⟩ := ofScan_congr (hcomplete.symm.trans hread) hlexemes h
  exact ⟨d', hd', hrelabel.symm⟩

/-- Texts are read alike if scanners are alike at their ends. -/
theorem readAlike_of_alike {text text' : String}
    (halike : (Scanner.start.run text.toList).Alike (Scanner.start.run text'.toList)) :
    ReadAlike text text' := by
  cases h : parse text with
  | ok d =>
    obtain ⟨d', hd', hplaces⟩ := exists_parse_of_alike halike h
    exact Or.inl ⟨d, d', h, hd', hplaces⟩
  | error e =>
    cases h' : parse text' with
    | error e' => exact Or.inr ⟨e, e', h, h'⟩
    | ok d' =>
      -- what the second text is read to, the first would be read to as well
      obtain ⟨d, hd, -⟩ := exists_parse_of_alike halike.symm h'
      rw [hd] at h
      cases h

/-- Runs of spaces outside of literals are read as single spaces. -/
theorem parse_collapse_spaces {text : String}
    (hspaces : ∀ c ∈ text.toList, isBlank c = true → c = ' ') (hquote : '"' ∉ text.toList) :
    ReadAlike text (Text.collapse text) := by
  apply readAlike_of_alike
  rw [Text.toList_collapse]
  exact Scanner.run_collapse_spaces hspaces hquote rfl Bool.noConfusion rfl

end Document

end Refetch
