import Refetch.Proofs.Document.Answering
import Refetch.Proofs.Document.Collapsing

/-!
# Collapsed literals

Collapsing the blanks inside quoted and block texts changes what these texts denote and nothing
else: the same lexemes are read, quoted texts in the same places among them. The scanner of the
collapsed text echoes the one of the text: it is in the same mode, and of a quoted text it holds
the collapsed characters.

* `Scanner.run_echoes` — the echo lasts to the end of the text
* `Scan.ofChars_collapseLiterals` — the two are read to the same lexemes, up to places and texts
-/

namespace Refetch

open Text (NarrowBlanks isBlank collapseFrom collapseChars collapseFrom_blank collapseFrom_other)

/-! ## Echoes -/

/-- `collapsed` is what the characters of a text, in reverse, collapse to, also in reverse, whatever
follows them; `inRun` says whether the last of them is blank. -/
def CollapsesTo (inRun : Bool) (text collapsed : List Char) : Prop :=
  ∀ rest, collapseFrom false (text.reverse ++ rest) = collapsed.reverse ++ collapseFrom inRun rest

section CollapsesTo

variable {inRun : Bool} {c : Char} {text collapsed : List Char}

theorem collapsesTo_nil : CollapsesTo false [] [] := fun _ => rfl

/-- A character that is no blank is read on both sides and ends the run. -/
theorem CollapsesTo.other (h : CollapsesTo inRun text collapsed) (hc : isBlank c = false) :
    CollapsesTo false (c :: text) (c :: collapsed) := by
  intro rest
  rw [List.reverse_cons, List.append_assoc, List.singleton_append, h, collapseFrom_other hc,
    List.reverse_cons, List.append_assoc, List.singleton_append]

/-- A blank is read on both sides if it starts a run, and otherwise only where nothing was
collapsed. -/
theorem CollapsesTo.blank (h : CollapsesTo inRun text collapsed) (hc : isBlank c = true) :
    CollapsesTo true (c :: text) (if inRun then collapsed else ' ' :: collapsed) := by
  intro rest
  rw [List.reverse_cons, List.append_assoc, List.singleton_append, h, collapseFrom_blank hc]
  cases inRun with
  | true => rfl
  | false => simp

theorem CollapsesTo.reverse_eq (h : CollapsesTo inRun text collapsed) :
    collapsed.reverse = collapseFrom false text.reverse := by
  have hnil := h []
  rw [List.append_nil, collapseFrom, List.append_nil] at hnil
  exact hnil.symm

end CollapsesTo

/-- Does a text, in reverse, end with a backslash? -/
def endsEscaping (text : List Char) : Bool := text.head? == some '\\'

/-- The second mode echoes the first: it is the same but for places, and for the characters of
the literal that is being read. After a blank the scanner is not right after an opening quote, an
escaping backslash or a quote of a block text. The blanks of a collapsed block text are single
bytes. -/
inductive Mode.Echoes : Bool → Mode → Mode → Prop where
  | between {inRun : Bool} : Echoes inRun .between .between
  | name {inRun : Bool} {p q : Pos} {text : List Char} : Echoes inRun (.name p text) (.name q text)
  | number {inRun : Bool} {p q : Pos} {text : List Char} :
      Echoes inRun (.number p text) (.number q text)
  | dots {inRun : Bool} {p q : Pos} {two : Bool} : Echoes inRun (.dots p two) (.dots q two)
  | quote {p q : Pos} : Echoes false (.quotes p false) (.quotes q false)
  | quotes {inRun : Bool} {p q : Pos} : Echoes inRun (.quotes p true) (.quotes q true)
  | string {inRun : Bool} {p q : Pos} {escaped : Bool} {text collapsed : List Char}
      (htext : CollapsesTo inRun text collapsed) (hrun : inRun = true → escaped = false) :
      Echoes inRun (.string p escaped text) (.string q escaped collapsed)
  | block {inRun : Bool} {p q : Pos} {run : Nat} {held : Bool} {text collapsed : List Char}
      (htext : endsEscaping text = endsEscaping collapsed) (hblanks : NarrowBlanks collapsed)
      (hrun : inRun = true → run = 0 ∧ held = false ∧ endsEscaping text = false) :
      Echoes inRun (.block p run held text) (.block q run held collapsed)

namespace Scanner

/-- The second scanner echoes the first: its mode does, and it has found the same lexemes up to
places and quoted texts. -/
def Echoes (inRun : Bool) (s u : Scanner) : Prop :=
  s.mode.Echoes inRun u.mode ∧
    relabelLexemes .outlining s.found = relabelLexemes .outlining u.found

/-! ## The same character -/

section Same

variable {s u : Scanner} {inRun : Bool} {c : Char}

/-- Between two lexemes a character opens the same on both sides, or dooms the text. -/
theorem Echoes.begin (hs : s.mode = .between) (hu : u.mode = .between)
    (hfound : relabelLexemes .outlining s.found = relabelLexemes .outlining u.found)
    (hhash : c ≠ '#') :
    (s.begin c).mode.Doomed ∨ Echoes (isBlank c) (s.begin c) (u.begin c) := by
  rw [begin_eq, begin_eq]
  cases hopening : Opening.ofChar c with
  | skip move =>
    right
    refine ⟨?_, hfound⟩
    change Mode.Echoes _ s.mode u.mode
    rw [hs, hu]
    exact .between
  | comment => exact absurd (Opening.eq_of_comment hopening) hhash
  | dots => exact Or.inr ⟨.dots, hfound⟩
  | quotes =>
    obtain rfl := Opening.eq_of_quotes hopening
    exact Or.inr ⟨.quote, hfound⟩
  | name => exact Or.inr ⟨.name, hfound⟩
  | number => exact Or.inr ⟨.number, hfound⟩
  | mark found => exact Or.inr ⟨.between, congrArg (List.cons _) hfound⟩
  | unreadable => exact Or.inl trivial

theorem Echoes.resume_emit (p q : Pos) (token? : Option Token)
    (hfound : relabelLexemes .outlining s.found = relabelLexemes .outlining u.found)
    (hhash : c ≠ '#') :
    ((s.emit p token?).resume c).mode.Doomed ∨
      Echoes (isBlank c) ((s.emit p token?).resume c) ((u.emit q token?).resume c) := by
  cases token? with
  | none => exact Or.inl trivial
  | some token =>
    exact Echoes.begin (s := s.emit p (some token)) (u := u.emit q (some token)) rfl rfl
      (congrArg (List.cons _) hfound) hhash

/-- A quoted text whose escapes can be resolved is found in both, though not to mean the same. -/
theorem stringToken?_collapsed {text collapsed : List Char} {token : Token}
    (htext : CollapsesTo inRun text collapsed) (h : stringToken? text = some token) :
    ∃ other, stringToken? collapsed = some other ∧
      token.relabel .outlining = other.relabel .outlining := by
  obtain ⟨value, hvalue, rfl⟩ := Option.map_eq_some_iff.mp h
  obtain ⟨other, hother⟩ := Literal.unescape?_collapse false hvalue
  refine ⟨.string (.ofList other), ?_, rfl⟩
  rw [stringToken?, htext.reverse_eq, hother]
  rfl

section Literals

variable {pos place p q : Pos} {found found' : List Lexeme} {text collapsed : List Char}

/-- Inside a quoted text a character goes on with it or ends it on both sides, or dooms the text. -/
theorem Echoes.step_string {escaped : Bool} (htext : CollapsesTo inRun text collapsed)
    (hfound : relabelLexemes .outlining found = relabelLexemes .outlining found')
    (hc : isBlank c = false) :
    (Scanner.step ⟨pos, .string p escaped text, found⟩ c).mode.Doomed ∨
      Echoes false (Scanner.step ⟨pos, .string p escaped text, found⟩ c)
        (Scanner.step ⟨place, .string q escaped collapsed, found'⟩ c) := by
  cases hclose : c = '"' && !escaped with
  | true =>
    simp only [Bool.and_eq_true, decide_eq_true_eq, Bool.not_eq_true'] at hclose
    obtain ⟨rfl, rfl⟩ := hclose
    rw [step_string_close, step_string_close]
    cases htoken : stringToken? text with
    | none => exact Or.inl trivial
    | some token =>
      obtain ⟨other, hother, hrelabel⟩ := stringToken?_collapsed htext htoken
      rw [hother]
      refine Or.inr ⟨.between, ?_⟩
      change (⟨.first, token.relabel .outlining⟩ : Lexeme) :: relabelLexemes .outlining found =
        ⟨.first, other.relabel .outlining⟩ :: relabelLexemes .outlining found'
      rw [hrelabel, hfound]
  | false =>
    rw [step_string_more hclose, step_string_more hclose]
    split
    · exact Or.inl trivial
    · exact Or.inr ⟨.string (htext.other hc) Bool.noConfusion, hfound⟩

/-- A block text that means something is found in both, for the collapsed one always does. -/
theorem Echoes.closeBlock (value? : Option (List Char)) (hblanks : NarrowBlanks collapsed)
    (hfound : relabelLexemes .outlining s.found = relabelLexemes .outlining u.found) :
    (s.closeBlock p value?).mode.Doomed ∨
      Echoes false (s.closeBlock p value?) (u.closeBlock q (Literal.blockValue? collapsed)) := by
  cases value? with
  | none => exact Or.inl trivial
  | some value =>
    obtain ⟨other, hother⟩ := Literal.exists_blockValue? hblanks
    rw [hother]
    exact Or.inr ⟨.between, congrArg (List.cons (⟨.first, .string ""⟩ : Lexeme)) hfound⟩

/-- In block texts it is enough that both hold a backslash last, or neither does, and that the
blanks of the second are single bytes: what else they hold is forgotten. -/
theorem Echoes.step_block {run : Nat} {held : Bool}
    (htext : endsEscaping text = endsEscaping collapsed) (hblanks : NarrowBlanks collapsed)
    (hfound : relabelLexemes .outlining found = relabelLexemes .outlining found')
    (hc : isBlank c = false) :
    (Scanner.step ⟨pos, .block p run held text, found⟩ c).mode.Doomed ∨
      Echoes false (Scanner.step ⟨pos, .block p run held text, found⟩ c)
        (Scanner.step ⟨place, .block q run held collapsed, found'⟩ c) := by
  change (stepBlock _ p run held text c).mode.Doomed ∨
    Echoes false (stepBlock _ p run held text c) (stepBlock _ q run held collapsed c)
  have hmore : NarrowBlanks (c :: collapsed) :=
    hblanks.cons fun hblank => absurd hblank (by simp [hc])
  by_cases hquote : c = '"'
  · subst hquote
    by_cases hrun : run < 2
    · rw [stepBlock_quote _ _ _ _ hrun, stepBlock_quote _ _ _ _ hrun]
      have hheld : (if run = 0 then text.head? == some '\\' else held) =
          if run = 0 then collapsed.head? == some '\\' else held := by
        rw [endsEscaping, endsEscaping] at htext
        rw [htext]
      rw [hheld]
      exact Or.inr ⟨.block rfl hmore Bool.noConfusion, hfound⟩
    · rw [stepBlock_third _ _ _ _ hrun, stepBlock_third _ _ _ _ hrun]
      cases held with
      | true => exact Or.inr ⟨.block rfl hmore Bool.noConfusion, hfound⟩
      | false =>
        have hraw : NarrowBlanks (collapsed.drop 2).reverse :=
          hblanks.subset fun _ hmem => List.mem_of_mem_drop (List.mem_reverse.mp hmem)
        exact Echoes.closeBlock _ hraw hfound
  · rw [stepBlock_other _ _ _ _ hquote, stepBlock_other _ _ _ _ hquote]
    exact Or.inr ⟨.block rfl hmore Bool.noConfusion, hfound⟩

end Literals

/-- Scanners that echo take a character alike, if it is not a blank of a literal. -/
theorem Echoes.step (h : Echoes inRun s u) (hhash : c ≠ '#')
    (hc : isBlank c = false ∨ s.mode.inLiteral = false) :
    (s.step c).mode.Doomed ∨ Echoes (isBlank c) (s.step c) (u.step c) := by
  obtain ⟨pos, mode, found⟩ := s
  obtain ⟨place, mode', found'⟩ := u
  obtain ⟨hmode, hfound⟩ := h
  simp only at hmode hfound hc
  cases hmode with
  | between => exact Echoes.begin rfl rfl hfound hhash
  | @name _ p q text =>
    change (ite _ _ _ : Scanner).mode.Doomed ∨ Echoes _ (ite _ _ _) (ite _ _ _)
    split
    · exact Or.inr ⟨.name, hfound⟩
    · exact Echoes.resume_emit p q (some (nameToken text)) hfound hhash
  | @number _ p q text =>
    change (ite _ _ _ : Scanner).mode.Doomed ∨ Echoes _ (ite _ _ _) (ite _ _ _)
    split
    · exact Echoes.resume_emit p q (Literal.number? text.reverse) hfound hhash
    · exact Or.inr ⟨.number, hfound⟩
  | @dots _ p q two =>
    change (ite _ _ _ : Scanner).mode.Doomed ∨ Echoes _ (ite _ _ _) (ite _ _ _)
    split
    · cases two with
      | true => exact Or.inr ⟨.between, congrArg (List.cons _) hfound⟩
      | false => exact Or.inr ⟨.dots, hfound⟩
    · exact Or.inl trivial
  | quote =>
    have hc : isBlank c = false := hc.resolve_right Bool.noConfusion
    by_cases hquote : c = '"'
    · subst hquote
      exact Or.inr ⟨.quotes, hfound⟩
    · rw [step_quote_open hquote, step_quote_open hquote]
      split
      · exact Or.inl trivial
      · rw [hc]
        exact Or.inr ⟨.string (collapsesTo_nil.other hc) Bool.noConfusion, hfound⟩
  | @quotes _ p q =>
    by_cases hquote : c = '"'
    · subst hquote
      exact Or.inr ⟨.block rfl NarrowBlanks.nil Bool.noConfusion, hfound⟩
    · rw [step_quotes_end hquote, step_quotes_end hquote]
      exact Echoes.resume_emit p q (some (.string "")) hfound hhash
  | string htext _ =>
    have hc : isBlank c = false := hc.resolve_right Bool.noConfusion
    rw [hc]
    exact Echoes.step_string htext hfound hc
  | block htext hblanks _ =>
    have hc : isBlank c = false := hc.resolve_right Bool.noConfusion
    rw [hc]
    exact Echoes.step_block htext hblanks hfound hc

/-- A blank of a literal is taken by the first scanner; the second takes a space for the first
blank of a run and nothing for the others. -/
theorem Echoes.step_blank (h : Echoes inRun s u) (hc : isBlank c = true)
    (hliteral : s.mode.inLiteral = true) :
    (s.step c).mode.Doomed ∨
      Echoes true (s.step c) (if inRun then u else u.step ' ') := by
  have hquote : c ≠ '"' := by rintro rfl; cases hc
  have hescape : c ≠ '\\' := by rintro rfl; cases hc
  obtain ⟨pos, mode, found⟩ := s
  obtain ⟨place, mode', found'⟩ := u
  obtain ⟨hmode, hfound⟩ := h
  simp only at hmode hfound hliteral
  cases hmode with
  | quote =>
    rw [step_quote_open hquote, if_neg Bool.false_ne_true, step_quote_open (by decide),
      if_neg (by decide : ' ' ≠ '\n')]
    split
    · exact Or.inl trivial
    · rw [decide_eq_false hescape]
      exact Or.inr ⟨.string (collapsesTo_nil.blank hc) fun _ => rfl, hfound⟩
  | @string _ p q escaped text collapsed htext hrun =>
    rw [step_string_more (by simp [hquote])]
    split
    · exact Or.inl trivial
    · right
      have htext := htext.blank hc
      have hescaped : (c = '\\' && !escaped) = false := by simp [hescape]
      rw [hescaped]
      cases inRun with
      | true =>
        obtain rfl := hrun rfl
        exact ⟨.string htext fun _ => rfl, hfound⟩
      | false => exact ⟨.string htext fun _ => rfl, hfound⟩
  | @block _ p q run held text collapsed htext hblanks hrun =>
    right
    have hends : endsEscaping (c :: text) = false := by simp [endsEscaping, hescape]
    have hstep : ∀ d, d ≠ '"' → ∀ (p q : Pos) (text : List Char) (found : List Lexeme),
        Scanner.step ⟨q, .block p run held text, found⟩ d =
          ⟨if d = '\n' then q.nextLine else q.right 1, .block p 0 false (d :: text), found⟩ :=
      fun d hd p q text found => stepBlock_other _ _ _ _ hd
    rw [hstep c hquote]
    cases inRun with
    | true =>
      -- the second scanner stays where the first blank of the run has taken it
      obtain ⟨rfl, rfl, hbefore⟩ := hrun rfl
      exact ⟨.block (by rw [hends, ← htext, hbefore]) hblanks fun _ => ⟨rfl, rfl, hends⟩, hfound⟩
    | false =>
      rw [if_neg Bool.false_ne_true, hstep ' ' (by decide)]
      have hmore : NarrowBlanks (' ' :: collapsed) := hblanks.cons fun _ => rfl
      exact ⟨.block (by rw [hends]; rfl) hmore fun _ => ⟨rfl, rfl, hends⟩, hfound⟩
  | _ => cases hliteral

/-- Scanners that echo one another are inside literals at the same time. -/
theorem Echoes.inLiteral_eq (h : Echoes inRun s u) : s.mode.inLiteral = u.mode.inLiteral := by
  obtain ⟨pos, mode, found⟩ := s
  obtain ⟨place, mode', found'⟩ := u
  obtain ⟨hmode, -⟩ := h
  simp only at hmode
  cases hmode <;> rfl

end Same

/-! ## Whole texts -/

/-- Over a text without `#`, the scanner of the text with its literals collapsed echoes the one
of the text to the end, unless that one is doomed; and it finds nothing left to collapse. -/
theorem run_echoes {s u : Scanner} {inRun : Bool} {text : List Char} (hhash : '#' ∉ text)
    (h : Echoes inRun s u) :
    (s.run text).mode.Doomed ∨
      ((∃ inRun', Echoes inRun' (s.run text) (u.run (s.collapseLiteralsFrom inRun text))) ∧
        u.collapseLiteralsFrom inRun (s.collapseLiteralsFrom inRun text) =
          s.collapseLiteralsFrom inRun text) := by
  induction text generalizing s u inRun with
  | nil => exact Or.inr ⟨⟨inRun, h⟩, rfl⟩
  | cons c rest ih =>
    rw [List.mem_cons, not_or] at hhash
    obtain ⟨hc, hrest⟩ := hhash
    by_cases hblank : isBlank c = true ∧ s.mode.inLiteral = true
    · obtain ⟨hblank, hliteral⟩ := hblank
      rw [collapseLiteralsFrom_blank hblank hliteral]
      rcases h.step_blank hblank hliteral with hdoomed | hstep
      · exact Or.inl (doomed_run hdoomed rest)
      · cases inRun with
        | true => exact ih hrest hstep
        | false =>
          -- the space that is left is the first of its run in the collapsed text, too
          rcases ih hrest hstep with hdoomed | ⟨hechoes, hsettled⟩
          · exact Or.inl hdoomed
          · refine Or.inr ⟨hechoes, ?_⟩
            rw [if_neg Bool.false_ne_true, collapseLiteralsFrom_blank Text.isBlank_space
              (h.inLiteral_eq.symm.trans hliteral), if_neg Bool.false_ne_true]
            exact congrArg (List.cons ' ') hsettled
    · have hother : isBlank c = false ∨ s.mode.inLiteral = false := by
        rw [Classical.not_and_iff_not_or_not, Bool.not_eq_true, Bool.not_eq_true] at hblank
        exact hblank
      rw [collapseLiteralsFrom_other hother]
      rcases h.step (Ne.symm hc) hother with hdoomed | hstep
      · exact Or.inl (doomed_run hdoomed rest)
      · rcases ih hrest hstep with hdoomed | ⟨hechoes, hsettled⟩
        · exact Or.inl hdoomed
        · refine Or.inr ⟨hechoes, ?_⟩
          rw [collapseLiteralsFrom_other (by rw [← h.inLiteral_eq]; exact hother), hsettled]

/-- At the end of the texts, scanners that echo have found the same lexemes, up to places and
quoted texts. -/
theorem Echoes.scan_close {s u : Scanner} {inRun : Bool} (h : Echoes inRun s u)
    (hcomplete : s.close.scan.complete = true) :
    u.close.scan.complete = true ∧
      relabelLexemes .outlining s.close.scan.lexemes =
        relabelLexemes .outlining u.close.scan.lexemes := by
  obtain ⟨pos, mode, found⟩ := s
  obtain ⟨place, mode', found'⟩ := u
  obtain ⟨hmode, hfound⟩ := h
  simp only at hmode hfound
  have hreverse : ∀ found found' : List Lexeme,
      relabelLexemes .outlining found = relabelLexemes .outlining found' →
        relabelLexemes .outlining found.reverse = relabelLexemes .outlining found'.reverse := by
    intro found found' h
    rw [relabelLexemes, relabelLexemes, List.map_reverse, List.map_reverse]
    exact congrArg List.reverse h
  -- the lexeme under way, if there is one, is the last on both sides
  have hlast : ∀ (p q : Pos) (token : Token),
      relabelLexemes .outlining (⟨p, token⟩ :: found).reverse =
        relabelLexemes .outlining (⟨q, token⟩ :: found').reverse :=
    fun p q token => hreverse _ _ (congrArg (List.cons _) hfound)
  cases hmode with
  | between => exact ⟨rfl, hreverse _ _ hfound⟩
  | @name _ p q text => exact ⟨rfl, hlast p q (nameToken text)⟩
  | @number _ p q text =>
    change (emit _ p (Literal.number? text.reverse)).scan.complete = true at hcomplete
    change (emit _ q (Literal.number? text.reverse)).scan.complete = true ∧
      relabelLexemes _ (emit _ p (Literal.number? text.reverse)).scan.lexemes =
        relabelLexemes _ (emit _ q (Literal.number? text.reverse)).scan.lexemes
    cases hnumber : Literal.number? text.reverse with
    | none =>
      rw [hnumber] at hcomplete
      cases hcomplete
    | some token => exact ⟨rfl, hlast p q token⟩
  | @quotes _ p q => exact ⟨rfl, hlast p q (.string "")⟩
  | _ => cases hcomplete

/-- Without a quote there is nothing to collapse. -/
theorem collapseLiteralsFrom_of_no_quote {s : Scanner} {inRun : Bool} {text : List Char}
    (hs : s.mode.inLiteral = false) (hquote : '"' ∉ text) :
    s.collapseLiteralsFrom inRun text = text := by
  induction text generalizing s inRun with
  | nil => rfl
  | cons c rest ih =>
    rw [List.mem_cons, not_or] at hquote
    rw [collapseLiteralsFrom_other (Or.inr hs),
      ih (step_not_inLiteral hs (Ne.symm hquote.1)) hquote.2]

end Scanner

/-- A text without `#` that is read to its end is so once its literals are collapsed, to the same
lexemes up to places and quoted texts. -/
theorem Scan.ofChars_collapseLiterals {text : List Char} (hhash : '#' ∉ text)
    (hcomplete : (Scan.ofChars text).complete = true) :
    let collapsed := Scanner.start.collapseLiteralsFrom false text
    (Scan.ofChars collapsed).complete = true ∧
      relabelLexemes .outlining (Scan.ofChars text).lexemes =
        relabelLexemes .outlining (Scan.ofChars collapsed).lexemes ∧
      Scanner.start.collapseLiteralsFrom false collapsed = collapsed := by
  have hstart : Scanner.Echoes false .start .start := ⟨.between, rfl⟩
  rcases Scanner.run_echoes hhash hstart with hdoomed | ⟨⟨inRun, hechoes⟩, hsettled⟩
  · rw [Scan.ofChars, Scanner.not_complete_of_doomed hdoomed] at hcomplete
    cases hcomplete
  · obtain ⟨hread, hlexemes⟩ := hechoes.scan_close hcomplete
    exact ⟨hread, hlexemes, hsettled⟩

end Refetch
