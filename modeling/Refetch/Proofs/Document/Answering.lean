import Mathlib.Data.List.TakeWhile
import Refetch.Proofs.Document.Scanning

/-!
# Texts that the reader answers

The reader breaks down over a block text in which a character reaches over the end of the common
indentation. Indentation is blank, so that takes a blank of more than one byte. The blanks one finds
in a text are spaces, tabs and line ends, of one byte each, and a text that has no others is
answered: by a document, or by the place at which it is refused. So is every text that has been
collapsed, which leaves no blanks but spaces.

* `Literal.exists_blockValue?` — a block text whose blanks are single bytes means something
* `Scanner.narrow_run` — a scanner in the middle of such a text finds no block text ragged
* `Document.parse_ne_crash` — a text whose blanks are single bytes is answered
-/

namespace Refetch

open Text (NarrowBlanks isBlank)

/-! ## Block texts -/

namespace Literal

variable {lines : List (List Char)} {bytes : Nat} {line : List Char}

/-- A line that is not too short to be cut is cut within the blanks it starts with. -/
theorem short_or_le_indentOf (h : (bytes, line) ∈ indentedLines lines) :
    Text.byteLength line < bytes ∨ bytes ≤ indentOf line := by
  cases lines with
  | nil => cases h
  | cons first rest =>
    rcases List.mem_cons.mp h with hfirst | hrest
    · obtain ⟨rfl, rfl⟩ := Prod.mk.inj hfirst
      exact Or.inr (Nat.zero_le _)
    · obtain ⟨other, hmem, hother⟩ := List.mem_map.mp hrest
      obtain ⟨rfl, rfl⟩ := Prod.mk.inj hother
      cases hblank : Text.isBlankLine other with
      | true =>
        -- a blank line is nothing but the blanks it starts with
        have hall : other.takeWhile isBlank = other :=
          List.takeWhile_eq_self_iff.mpr (List.all_eq_true.mp hblank)
        rw [indentOf, hall]
        exact Nat.lt_or_ge _ _
      | false =>
        have hkept : other ∈ rest.filter (!Text.isBlankLine ·) :=
          List.mem_filter.mpr ⟨hmem, by rw [hblank]; rfl⟩
        exact Or.inr (List.min?_getD_le_of_mem (List.mem_map_of_mem hkept))

/-- Between blanks that are single bytes a line can be cut anywhere. -/
theorem exists_outdent? (hblanks : NarrowBlanks line)
    (hcut : Text.byteLength line < bytes ∨ bytes ≤ indentOf line) :
    ∃ cut, outdent? bytes line = some cut := by
  rcases hcut with hshort | hcut
  · exact ⟨line, outdent?_eq_some_iff.mpr (Or.inl ⟨hshort, rfl⟩)⟩
  · have hsize : ∀ c ∈ line.takeWhile isBlank, c.utf8Size = 1 := fun c hc =>
      hblanks c (List.takeWhile_subset _ hc) (List.mem_takeWhile_imp hc)
    rw [indentOf, Text.byteLength_eq_length hsize] at hcut
    have hfront : Text.byteLength ((line.takeWhile isBlank).take bytes) = bytes := by
      rw [Text.byteLength_eq_length fun c hc => hsize c (List.mem_of_mem_take hc),
        List.length_take_of_le hcut]
    have hline : line = (line.takeWhile isBlank).take bytes ++
        ((line.takeWhile isBlank).drop bytes ++ line.dropWhile isBlank) := by
      rw [← List.append_assoc, List.take_append_drop, List.takeWhile_append_dropWhile]
    exact ⟨_, outdent?_eq_some_iff.mpr (Or.inr ⟨_, hline, hfront⟩)⟩

/-- The lines that are left of a block text, with or without their indentation, are lines of it. -/
theorem mem_of_mem_indentedLines (h : (bytes, line) ∈ trimBlankLines (indentedLines lines)) :
    (bytes, line) ∈ indentedLines lines ∧ line ∈ lines := by
  rw [trimBlankLines, List.mem_reverse] at h
  have hkept := List.mem_reverse.mp (List.dropWhile_subset _ h)
  have hmem : (bytes, line) ∈ indentedLines lines := List.dropWhile_subset _ hkept
  refine ⟨hmem, ?_⟩
  cases lines with
  | nil => cases hmem
  | cons first rest =>
    rcases List.mem_cons.mp hmem with hfirst | hrest
    · obtain ⟨-, rfl⟩ := Prod.mk.inj hfirst
      exact List.mem_cons_self
    · obtain ⟨other, hother, heq⟩ := List.mem_map.mp hrest
      obtain ⟨-, rfl⟩ := Prod.mk.inj heq
      exact List.mem_cons_of_mem _ hother

/-- Lines that can each be cut can be cut together. -/
theorem exists_mapM_outdent? {lines : List (Nat × List Char)}
    (h : ∀ line ∈ lines, ∃ cut, outdent? line.1 line.2 = some cut) :
    ∃ cuts, lines.mapM (fun (bytes, line) => outdent? bytes line) = some cuts := by
  induction lines with
  | nil => exact ⟨[], rfl⟩
  | cons first rest ih =>
    obtain ⟨bytes, line⟩ := first
    rw [List.forall_mem_cons] at h
    obtain ⟨cut, hcut⟩ := h.1
    obtain ⟨cuts, hcuts⟩ := ih h.2
    exact ⟨cut :: cuts, by simp [List.mapM_cons, hcut, hcuts]⟩

/-- A block text whose blanks are single bytes means something. -/
theorem exists_blockValue? {raw : List Char} (h : NarrowBlanks raw) :
    ∃ value, blockValue? raw = some value := by
  have hcut : ∀ line ∈ trimBlankLines (indentedLines (Text.lines raw)),
      ∃ cut, outdent? line.1 line.2 = some cut := by
    intro line hline
    obtain ⟨hindented, hmem⟩ := mem_of_mem_indentedLines hline
    exact exists_outdent? (h.subset (Text.subset_of_mem_lines hmem))
      (short_or_le_indentOf hindented)
  obtain ⟨cuts, hcuts⟩ := exists_mapM_outdent? hcut
  exact ⟨_, by rw [blockValue?, hcuts]; rfl⟩

end Literal

/-! ## Scanners -/

/-- Are the blanks of the block text that is being read single bytes, and was none found ragged? -/
def Mode.Narrow : Mode → Prop
  | .block _ _ _ text => NarrowBlanks text
  | .malformed _ fault => fault ≠ .ragged
  | _ => True

namespace Scanner

variable {s : Scanner} {c : Char}

/-- A lexeme that is handed on leaves the scanner outside of block texts. -/
theorem narrow_emit (s : Scanner) (start : Pos) (token? : Option Token) :
    (s.emit start token?).mode.Narrow := by
  cases token? with
  | none => exact Fault.noConfusion
  | some token => trivial

theorem narrow_begin (h : s.mode.Narrow) (c : Char) : (s.begin c).mode.Narrow := by
  rw [begin_eq]
  cases Opening.ofChar c with
  | skip move => exact h
  | unreadable => exact Fault.noConfusion
  | _ => trivial

theorem narrow_resume (h : s.mode.Narrow) (c : Char) : (s.resume c).mode.Narrow := by
  obtain ⟨pos, mode, found⟩ := s
  cases mode with
  | malformed start fault => exact h
  | _ => exact narrow_begin h c

/-- A block text that ends here means something. -/
theorem narrow_stepBlock (s : Scanner) (start : Pos) (run : Nat) (held : Bool)
    {text : List Char} (h : NarrowBlanks text) (hc : isBlank c = true → c.utf8Size = 1) :
    (s.stepBlock start run held text c).mode.Narrow := by
  have hmore : NarrowBlanks (c :: text) := h.cons hc
  by_cases hquote : c = '"'
  · subst hquote
    by_cases hrun : run < 2
    · rw [stepBlock_quote _ _ _ _ hrun]
      exact hmore
    · rw [stepBlock_third _ _ _ _ hrun]
      cases held with
      | true => exact hmore
      | false =>
        have hraw : NarrowBlanks (text.drop 2).reverse :=
          h.subset fun _ hmem => List.mem_of_mem_drop (List.mem_reverse.mp hmem)
        obtain ⟨value, hvalue⟩ := Literal.exists_blockValue? hraw
        rw [hvalue]
        trivial
  · rw [stepBlock_other _ _ _ _ hquote]
    exact hmore

/-- A character that is no blank of several bytes leaves the scanner as it should be. -/
theorem narrow_step (h : s.mode.Narrow) (hc : isBlank c = true → c.utf8Size = 1) :
    (s.step c).mode.Narrow := by
  obtain ⟨pos, mode, found⟩ := s
  cases mode with
  | between => exact narrow_begin h c
  | comment =>
    change (ite _ _ _ : Scanner).mode.Narrow
    split <;> trivial
  | name start text =>
    change (ite _ _ _ : Scanner).mode.Narrow
    split
    · trivial
    · exact narrow_resume (narrow_emit _ start _) c
  | number start text =>
    change (ite _ _ _ : Scanner).mode.Narrow
    split
    · exact narrow_resume (narrow_emit _ start _) c
    · trivial
  | dots start two =>
    change (ite _ _ _ : Scanner).mode.Narrow
    split
    · cases two <;> trivial
    · exact Fault.noConfusion
  | quotes start two =>
    by_cases hquote : c = '"'
    · subst hquote
      cases two with
      | true => exact NarrowBlanks.nil
      | false => trivial
    · cases two with
      | true =>
        rw [step_quotes_end hquote]
        exact narrow_resume (narrow_emit _ start _) c
      | false =>
        rw [step_quote_open hquote]
        split
        · exact Fault.noConfusion
        · trivial
  | string start escaped text =>
    change (ite _ _ _ : Scanner).mode.Narrow
    split
    · exact Fault.noConfusion
    · split
      · exact narrow_emit ⟨pos, .string start escaped text, found⟩ start (stringToken? text)
      · trivial
  | block start run held text => exact narrow_stepBlock _ start run held h hc
  | malformed start fault => exact h

/-- A text whose blanks are single bytes leaves no block text with others, and none ragged. -/
theorem narrow_run {text : List Char} (h : s.mode.Narrow) (htext : NarrowBlanks text) :
    (s.run text).mode.Narrow := by
  induction text generalizing s with
  | nil => exact h
  | cons c rest ih =>
    have hmem := List.forall_mem_cons.mp htext
    exact ih (narrow_step h hmem.1) hmem.2

theorem narrow_close (h : s.mode.Narrow) : s.close.mode.Narrow := by
  obtain ⟨pos, mode, found⟩ := s
  cases mode with
  | name start text => exact narrow_emit _ start _
  | number start text => exact narrow_emit _ start _
  | quotes start two => cases two <;> exact narrow_emit _ start _
  | dots start two => exact narrow_emit _ start _
  | string start escaped text => exact narrow_emit _ start _
  | block start run held text => exact narrow_emit _ start _
  | _ => exact h

theorem fault?_ne_ragged_of_narrow (h : s.mode.Narrow) : s.scan.fault? ≠ some .ragged := by
  intro hfault
  obtain ⟨pos, mode, found⟩ := s
  cases mode with
  | malformed start fault => exact h (Option.some.inj hfault)
  | _ => cases hfault

end Scanner

/-- Where all blanks are single bytes, no block text is found to be ragged. -/
theorem Scan.fault?_ne_ragged {text : List Char} (h : NarrowBlanks text) :
    (Scan.ofChars text).fault? ≠ some .ragged :=
  Scanner.fault?_ne_ragged_of_narrow
    (Scanner.narrow_close (Scanner.narrow_run (s := .start) trivial h))

namespace Document

/-- The reader breaks down over a ragged block text, and over nothing else. -/
theorem fault?_of_crash {scan : Scan} {pos : Pos} (h : ofScan scan = .error (.crash pos)) :
    scan.fault? = some .ragged ∧ scan.stop = pos := by
  rw [ofScan] at h
  split at h
  · split at h <;> cases h
  · split at h
    · rename_i hragged
      rw [Bool.and_eq_true, decide_eq_true_eq] at hragged
      cases h
      exact ⟨hragged.1, rfl⟩
    · cases h
  · cases h

/-- A text whose blanks are single bytes is answered. -/
theorem parse_ne_crash {text : String} (h : NarrowBlanks text.toList) (pos : Pos) :
    parse text ≠ .error (.crash pos) :=
  fun hcrash => Scan.fault?_ne_ragged h (fault?_of_crash hcrash).1

/-- A block text of two lines: the first is indented by a space of one byte, and the second by one
of two, which cannot be cut after the first byte. -/
example : parse "\x7ba(x:\"\"\"\n b\n\u00a0c\"\"\")\x7d" = .error (.crash ⟨1, 6⟩) := by cbv

end Document

end Refetch
