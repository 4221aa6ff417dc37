import Refetch.Proofs.Document.Scanning

/-!
# Collapsed texts

Between lexemes one blank says as much as many, or none, so collapsing the blanks there does not
change what is read. Inside quoted and block texts blanks are part of the text.
`collapseLiterals` collapses the blanks in those texts and no others; on a text it leaves alone,
collapsing is without effect.

A blank that is out of place ends the reading, or becomes part of a number that cannot be read:
the scanner is doomed. The blank that it is collapsed to may be in place there, so a text that
cannot be read may become one that can.

* `Scanner.run_collapseFrom` — scanners of a text and of the collapsed text go alike
* `Scanner.run_collapseChars` — so they do from the start, if the text is read to its end
-/

namespace Refetch

open Text (isBlank collapseFrom collapseChars collapseFrom_blank collapseFrom_other)

/-! ## Blanks in literals -/

/-- Collapses the blanks inside the literals that a scanner finds in the characters still to
come; `inRun` says whether the character before them was blank. -/
def Scanner.collapseLiteralsFrom (s : Scanner) (inRun : Bool) : List Char → List Char
  | [] => []
  | c :: rest =>
    if isBlank c && s.mode.inLiteral then
      if inRun then (s.step c).collapseLiteralsFrom true rest
      else ' ' :: (s.step c).collapseLiteralsFrom true rest
    else c :: (s.step c).collapseLiteralsFrom (isBlank c) rest

/-- Turns every run of blanks inside a quoted text or a block text into one space. -/
def collapseLiterals (text : String) : String :=
  .ofList (Scanner.start.collapseLiteralsFrom false text.toList)

@[simp] theorem toList_collapseLiterals (text : String) :
    (collapseLiterals text).toList = Scanner.start.collapseLiteralsFrom false text.toList :=
  String.toList_ofList

namespace Scanner

section CollapseLiterals

variable {s : Scanner} {inRun : Bool} {c : Char} {rest text : List Char}

/-- Inside a literal a blank leaves a space behind if it starts a run, and nothing if it goes on
with one. -/
theorem collapseLiteralsFrom_blank (hc : isBlank c = true) (hs : s.mode.inLiteral = true) :
    s.collapseLiteralsFrom inRun (c :: rest) =
      if inRun then (s.step c).collapseLiteralsFrom true rest
      else ' ' :: (s.step c).collapseLiteralsFrom true rest := by
  rw [collapseLiteralsFrom, if_pos (by rw [hc, hs]; rfl)]

/-- Every other character is kept: outside of literals blanks are, too. -/
theorem collapseLiteralsFrom_other (h : isBlank c = false ∨ s.mode.inLiteral = false) :
    s.collapseLiteralsFrom inRun (c :: rest) =
      c :: (s.step c).collapseLiteralsFrom (isBlank c) rest := by
  rw [collapseLiteralsFrom, if_neg (by rcases h with h | h <;> simp [h])]

theorem length_collapseLiteralsFrom_le :
    (s.collapseLiteralsFrom inRun text).length ≤ text.length := by
  induction text generalizing s inRun with
  | nil => exact Nat.le_refl _
  | cons c rest ih =>
    rw [collapseLiteralsFrom]
    split
    · split
      · exact Nat.le_succ_of_le ih
      · exact Nat.succ_le_succ ih
    · exact Nat.succ_le_succ ih

/-- Nothing but blanks is changed, and to nothing but a space. -/
theorem mem_of_mem_collapseLiteralsFrom (h : c ∈ s.collapseLiteralsFrom inRun text) :
    c ∈ text ∨ c = ' ' := by
  induction text generalizing s inRun with
  | nil => exact absurd h List.not_mem_nil
  | cons d rest ih =>
    rw [collapseLiteralsFrom] at h
    split at h
    · split at h
      · exact (ih h).imp_left (List.mem_cons_of_mem _)
      · rcases List.mem_cons.mp h with rfl | h
        · exact Or.inr rfl
        · exact (ih h).imp_left (List.mem_cons_of_mem _)
    · rcases List.mem_cons.mp h with rfl | h
      · exact Or.inl (List.mem_cons_self ..)
      · exact (ih h).imp_left (List.mem_cons_of_mem _)

/-- The blanks in literals are among those that collapsing collapses. -/
theorem collapseFrom_collapseLiteralsFrom :
    collapseFrom inRun (s.collapseLiteralsFrom inRun text) = collapseFrom inRun text := by
  induction text generalizing s inRun with
  | nil => rfl
  | cons c rest ih =>
    cases hc : isBlank c with
    | false => rw [collapseLiteralsFrom_other (Or.inl hc), collapseFrom_other hc,
        collapseFrom_other hc, hc, ih]
    | true =>
      rw [collapseFrom_blank hc]
      cases hs : s.mode.inLiteral with
      | false => rw [collapseLiteralsFrom_other (Or.inr hs), collapseFrom_blank hc, hc, ih]
      | true =>
        rw [collapseLiteralsFrom_blank hc hs]
        cases inRun with
        | true => exact ih
        | false =>
          rw [if_neg Bool.false_ne_true, if_neg Bool.false_ne_true,
            collapseFrom_blank Text.isBlank_space, if_neg Bool.false_ne_true, ih]

end CollapseLiterals

end Scanner

/-! ## Doomed scanners -/

/-- Will the scanner stop before the end of the text, whatever follows? -/
def Mode.Doomed : Mode → Prop
  | .malformed .. => True
  | .number _ text => ¬ Solid text
  | _ => False

namespace Scanner

/-- A text with a blank in it is no number. -/
theorem number?_eq_none {text : List Char} (h : ¬ Solid text) :
    Literal.number? text.reverse = none := by
  cases hnumber : Literal.number? text.reverse with
  | none => rfl
  | some token =>
    exact absurd (fun c hc => Literal.number?_solid hnumber c (List.mem_reverse.mpr hc)) h

theorem doomed_step {s : Scanner} (h : s.mode.Doomed) (c : Char) : (s.step c).mode.Doomed := by
  obtain ⟨pos, mode, found⟩ := s
  cases mode with
  | malformed start fault => exact h
  | number start text =>
    change (ite _ _ _ : Scanner).mode.Doomed
    split
    · rw [number?_eq_none h]
      trivial
    · exact fun hsolid => h (solid_cons.mp hsolid).2
  | _ => exact h.elim

theorem doomed_run {s : Scanner} (h : s.mode.Doomed) (text : List Char) :
    (s.run text).mode.Doomed := by
  induction text generalizing s with
  | nil => exact h
  | cons c rest ih => exact ih (doomed_step h c)

/-- A doomed text is not read to the end. -/
theorem not_complete_of_doomed {s : Scanner} (h : s.mode.Doomed) :
    s.close.scan.complete = false := by
  obtain ⟨pos, mode, found⟩ := s
  cases mode with
  | malformed start fault => rfl
  | number start text =>
    change (emit _ start (Literal.number? text.reverse)).scan.complete = false
    rw [number?_eq_none h]
    rfl
  | _ => exact h.elim

/-! ## A blank outside literals -/

/-- A blank between two lexemes dooms the scanner or moves its place. -/
theorem begin_blank {s : Scanner} {c : Char} (hs : s.mode = .between) (hc : isBlank c = true) :
    (s.begin c).mode.Doomed ∨ ((s.begin c).mode = .between ∧ (s.begin c).Alike s) := by
  rw [begin_eq]
  rcases Opening.ofChar_blank hc with ⟨move, hskip⟩ | hunreadable
  · rw [hskip]
    exact Or.inr ⟨hs, alike_iff.mpr ⟨rfl, rfl⟩⟩
  · rw [hunreadable]
    exact Or.inl trivial

theorem begin_space (s : Scanner) : (s.begin ' ').Alike s := by
  rw [begin_eq]
  exact alike_iff.mpr ⟨rfl, rfl⟩

/-- After a lexeme every blank does what a space does, or makes the text unreadable. -/
theorem resume_emit_blank (s : Scanner) {c : Char} (start : Pos) (token? : Option Token)
    (hc : isBlank c = true) :
    ((s.emit start token?).resume c).mode.Doomed ∨
      (((s.emit start token?).resume c).mode = .between ∧
        ((s.emit start token?).resume c).Alike ((s.emit start token?).resume ' ')) := by
  cases token? with
  | none => exact Or.inl trivial
  | some token =>
    rcases begin_blank (s := s.emit start (some token)) rfl hc with hdoomed | ⟨hmode, halike⟩
    · exact Or.inl hdoomed
    · exact Or.inr ⟨hmode, Eq.trans halike (begin_space _).symm⟩

/-- Outside literals every blank does what a space does, or dooms the scanner. -/
theorem step_blank {s : Scanner} {c : Char} (hc : isBlank c = true)
    (hliteral : s.mode.inLiteral = false) (hcomment : s.mode ≠ .comment) :
    (s.step c).mode.Doomed ∨
      ((s.step c).mode = .between ∧ (s.step c).Alike (s.step ' ')) := by
  have hquote : c ≠ '"' := by rintro rfl; cases hc
  have hdot : c ≠ '.' := by rintro rfl; cases hc
  obtain ⟨pos, mode, found⟩ := s
  cases mode with
  | between =>
    rcases begin_blank (s := ⟨pos, .between, found⟩) rfl hc with hdoomed | ⟨hmode, halike⟩
    · exact Or.inl hdoomed
    · exact Or.inr ⟨hmode, Eq.trans halike (begin_space _).symm⟩
  | comment => exact absurd rfl hcomment
  | name start text =>
    have hstep : ∀ d, isBlank d = true → step ⟨pos, .name start text, found⟩ d =
        (emit ⟨pos, .name start text, found⟩ start (some (nameToken text))).resume d :=
      fun d hd => if_neg (by rw [isNameChar_of_isBlank hd]; exact Bool.false_ne_true)
    rw [hstep c hc, hstep ' ' Text.isBlank_space]
    exact resume_emit_blank _ start _ hc
  | number start text =>
    have hstep : ∀ d, endsNumber d = true → step ⟨pos, .number start text, found⟩ d =
        (emit ⟨pos, .number start text, found⟩ start (Literal.number? text.reverse)).resume d :=
      fun d hd => if_pos hd
    by_cases hends : endsNumber c = true
    · rw [hstep c hends, hstep ' ' (by decide)]
      exact resume_emit_blank _ start _ hc
    · -- the blank becomes part of the number
      left
      have hinto : step ⟨pos, .number start text, found⟩ c =
          into ⟨pos, .number start text, found⟩ (.number start (c :: text)) := if_neg hends
      rw [hinto]
      intro hsolid
      rw [(solid_cons.mp hsolid).1] at hc
      cases hc
  | dots start two =>
    left
    have hstep : step ⟨pos, .dots start two, found⟩ c =
        ⟨pos, .malformed start .unreadable, found⟩ := if_neg hdot
    rw [hstep]
    trivial
  | quotes start two =>
    cases two with
    | false => cases hliteral
    | true =>
      rw [step_quotes_end hquote, step_quotes_end (by decide)]
      exact resume_emit_blank _ start _ hc
  | string start escaped text => cases hliteral
  | block start run held text => cases hliteral
  | malformed start fault => exact Or.inl trivial

/-- A blank in a literal stays in it, or dooms the scanner. -/
theorem step_blank_inLiteral {s : Scanner} {c : Char} (hc : isBlank c = true)
    (hliteral : s.mode.inLiteral = true) :
    (s.step c).mode.Doomed ∨ (s.step c).mode.inLiteral = true := by
  have hquote : c ≠ '"' := by rintro rfl; cases hc
  obtain ⟨pos, mode, found⟩ := s
  cases mode with
  | quotes start two =>
    cases two with
    | true => cases hliteral
    | false =>
      rw [step_quote_open hquote]
      split
      · exact Or.inl trivial
      · exact Or.inr rfl
  | string start escaped text =>
    rw [step_string_more (by simp [hquote])]
    split
    · exact Or.inl trivial
    · exact Or.inr rfl
  | block start run held text =>
    change (stepBlock _ start run held text c).mode.Doomed ∨
      (stepBlock _ start run held text c).mode.inLiteral = true
    rw [stepBlock_other _ _ _ _ hquote]
    exact Or.inr rfl
  | _ => cases hliteral

/-! ## Scanners side by side -/

/-- A scanner of a text whose literals are collapsed already, and one of the text with all its
blanks collapsed, go alike to the end, unless the first is doomed. After a blank both are
between two lexemes or in a literal, which is why a blank that is left out is not missed. -/
theorem run_collapseFrom {s u : Scanner} {inRun : Bool} {text : List Char} (hhash : '#' ∉ text)
    (hcomment : s.mode ≠ .comment)
    (hrun : inRun = true → s.mode = .between ∨ s.mode.inLiteral = true)
    (hsettled : s.collapseLiteralsFrom inRun text = text) (halike : s.Alike u) :
    (s.run text).mode.Doomed ∨ (s.run text).Alike (u.run (collapseFrom inRun text)) := by
  induction text generalizing s u inRun with
  | nil => exact Or.inr halike
  | cons c rest ih =>
    rw [List.mem_cons, not_or] at hhash
    have hnext : (s.step c).mode ≠ .comment := step_ne_comment hcomment (Ne.symm hhash.1)
    cases hc : isBlank c with
    | false =>
      rw [collapseLiteralsFrom_other (Or.inl hc), hc, List.cons.injEq] at hsettled
      rw [collapseFrom_other hc]
      exact ih hhash.2 hnext Bool.noConfusion hsettled.2 (halike.step c)
    | true =>
      rw [collapseFrom_blank hc]
      cases hliteral : s.mode.inLiteral with
      | true =>
        rw [collapseLiteralsFrom_blank hc hliteral] at hsettled
        cases inRun with
        | true =>
          -- a second blank would have been left out, and the text would have got shorter
          rw [if_pos rfl] at hsettled
          have hle : ((s.step c).collapseLiteralsFrom true rest).length ≤ rest.length :=
            length_collapseLiteralsFrom_le
          rw [hsettled, List.length_cons] at hle
          omega
        | false =>
          rw [if_neg Bool.false_ne_true, List.cons.injEq] at hsettled
          obtain ⟨rfl, hsettled⟩ := hsettled
          rw [if_neg Bool.false_ne_true]
          rcases step_blank_inLiteral hc hliteral with hdoomed | hstays
          · exact Or.inl (doomed_run hdoomed rest)
          · exact ih hhash.2 hnext (fun _ => Or.inr hstays) hsettled (halike.step ' ')
      | false =>
        rw [collapseLiteralsFrom_other (Or.inr hliteral), hc, List.cons.injEq] at hsettled
        rcases step_blank hc hliteral hcomment with hdoomed | ⟨hbetween, hspace⟩
        · exact Or.inl (doomed_run hdoomed rest)
        · cases inRun with
          | true =>
            -- the collapsed text has no character here, and the blank moves the place only
            obtain hmode | hmode := hrun rfl
            · have hstep : s.step ' ' = s.begin ' ' := by rw [step, hmode]
              rw [hstep] at hspace
              exact ih hhash.2 hnext (fun _ => Or.inl hbetween) hsettled.2
                ((hspace.trans (begin_space s)).trans halike)
            · rw [hmode] at hliteral
              cases hliteral
          | false =>
            rw [if_neg Bool.false_ne_true]
            exact ih hhash.2 hnext (fun _ => Or.inl hbetween) hsettled.2
              (hspace.trans (halike.step ' '))

end Scanner

/-- A text without `#`, whose literals are collapsed, is read from its collapsed form as it is:
both are read to their end, by scanners that go alike. -/
theorem Scanner.run_collapseChars {text : List Char} (hhash : '#' ∉ text)
    (hsettled : Scanner.start.collapseLiteralsFrom false text = text)
    (hcomplete : (Scan.ofChars text).complete = true) :
    (Scanner.start.run text).Alike (Scanner.start.run (collapseChars text)) := by
  rcases run_collapseFrom hhash Mode.noConfusion Bool.noConfusion hsettled rfl with
    hdoomed | halike
  · rw [Scan.ofChars, not_complete_of_doomed hdoomed] at hcomplete
    cases hcomplete
  · exact halike

end Refetch
