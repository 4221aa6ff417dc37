import Refetch.Proofs.Document.Reading
import Refetch.Proofs.Document.Solid

/-!
# Scanners

What a scanner does next does not depend on the place it has reached, nor on the lexemes it has
found. So a scanner that is between two lexemes goes on with a text as one that starts with it.

* `Scanner.begin_eq` — what a character between two lexemes does, by what it opens
* `Scanner.Alike.run` — scanners that differ in places only do the same
* `Scan.ofChars_append` — the lexemes of a text that ends between two lexemes come before those
  of the text that follows
-/

namespace Refetch

/-! ## What a character opens -/

/-- What a character between two lexemes does. -/
inductive Opening where
  /-- it moves the place -/
  | skip (move : Pos → Pos)
  /-- it starts a comment -/
  | comment
  /-- it is the first of some dots -/
  | dots
  /-- it is the first of some quotes -/
  | quotes
  /-- it starts a name -/
  | name
  /-- it starts a number -/
  | number
  /-- it is a mark -/
  | mark (found : Punctuator)
  /-- it is out of place -/
  | unreadable

/-- What a character opens between two lexemes. -/
def Opening.ofChar (c : Char) : Opening :=
  if c = '\uFEFF' || c = '\r' then .skip id
  else if c = '\t' then .skip (·.right 8)
  else if c = '\n' then .skip .nextLine
  else if c = ' ' || c = ',' then .skip (·.right 1)
  else if c = '#' then .comment
  else if c = '.' then .dots
  else if c = '"' then .quotes
  else if isNameStart c then .name
  else if c.isDigit || c = '-' then .number
  else match Punctuator.ofChar? c with
    | some found => .mark found
    | none => .unreadable

/-- Only a `#` opens a comment. -/
theorem Opening.eq_of_comment {c : Char} (h : ofChar c = .comment) : c = '#' := by
  grind [Opening.ofChar]

/-- Only a quote opens quotes. -/
theorem Opening.eq_of_quotes {c : Char} (h : ofChar c = .quotes) : c = '"' := by
  grind [Opening.ofChar]

/-- A blank is no character of a name. -/
theorem isNameChar_of_isBlank {c : Char} (hc : Text.isBlank c = true) : isNameChar c = false := by
  rw [Bool.eq_false_iff]
  intro h
  rw [isNameChar, Bool.or_eq_true, beq_iff_eq] at h
  rcases h with h | rfl
  · rw [isBlank_of_isAlphanum h] at hc
    cases hc
  · cases hc

/-- A blank between two lexemes moves the place or is out of place. -/
theorem Opening.ofChar_blank {c : Char} (hc : Text.isBlank c = true) :
    (∃ move, ofChar c = .skip move) ∨ ofChar c = .unreadable := by
  have hne : ∀ d, Text.isBlank d = false → c ≠ d := by
    rintro d hd rfl
    rw [hc] at hd
    cases hd
  have hname : isNameStart c = false := by
    rw [Bool.eq_false_iff]
    intro h
    have hchar := isNameChar_of_isNameStart h
    rw [isNameChar_of_isBlank hc] at hchar
    cases hchar
  have hdigit : c.isDigit = false := by
    rw [Bool.eq_false_iff]
    intro h
    rw [isBlank_of_isDigit h] at hc
    cases hc
  have hmark : Punctuator.ofChar? c = none := by
    unfold Punctuator.ofChar?
    split <;> first | rfl | cases hc
  have hdot := hne '.' (by decide)
  have hhash := hne '#' (by decide)
  have hquote := hne '"' (by decide)
  have hminus := hne '-' (by decide)
  grind [Opening.ofChar]

namespace Scanner

/-- Does what an opening says. -/
def take (s : Scanner) (c : Char) : Opening → Scanner
  | .skip move => { s with pos := move s.pos }
  | .comment => { s with mode := .comment }
  | .dots => s.into (.dots s.pos false)
  | .quotes => s.into (.quotes s.pos false)
  | .name => s.into (.name s.pos [c])
  | .number => s.into (.number s.pos [c])
  | .mark found => { s.emit s.pos (some (.punct found)) with pos := s.pos.right 1 }
  | .unreadable => { s with mode := .malformed s.pos .unreadable }

/-- Between two lexemes all that counts of a character is what it opens. -/
theorem begin_eq (s : Scanner) (c : Char) : s.begin c = s.take c (.ofChar c) := by
  unfold begin Opening.ofChar
  simp only [apply_ite (s.take c)]
  cases Punctuator.ofChar? c <;> rfl

@[simp] theorem lexemes_scan (s : Scanner) : s.scan.lexemes = s.found.reverse := by
  obtain ⟨pos, mode, found⟩ := s
  cases mode <;> rfl

/-! ## Quoted texts -/

section Quotes

variable {pos start : Pos} {found : List Lexeme} {text : List Char} {escaped : Bool} {c : Char}

/-- Two quotes without a third are an empty text. -/
theorem step_quotes_end (hc : c ≠ '"') :
    step ⟨pos, .quotes start true, found⟩ c =
      (emit ⟨pos, .quotes start true, found⟩ start (some (.string ""))).resume c :=
  (if_neg hc).trans (if_pos rfl)

/-- After one quote anything but a second quote is the first character of a quoted text, and a line
end leaves the text unread. -/
theorem step_quote_open (hc : c ≠ '"') :
    step ⟨pos, .quotes start false, found⟩ c =
      if c = '\n' then ⟨pos, .malformed start .unreadable, found⟩
      else into ⟨pos, .quotes start false, found⟩ (.string start (c = '\\') [c]) :=
  (if_neg hc).trans (if_neg Bool.false_ne_true)

/-- A quote that is not escaped ends a quoted text, whose value is what was read since the first
quote. -/
theorem step_string_close :
    step ⟨pos, .string start false text, found⟩ '"' =
      { emit ⟨pos, .string start false text, found⟩ start (stringToken? text) with
        pos := pos.right 1 } := rfl

/-- Every other character goes on with the quoted text, and only a line end leaves it unread. -/
theorem step_string_more (hclose : (c = '"' && !escaped) = false) :
    step ⟨pos, .string start escaped text, found⟩ c =
      if c = '\n' then ⟨pos, .malformed start .unreadable, found⟩
      else into ⟨pos, .string start escaped text, found⟩
        (.string start (c = '\\' && !escaped) (c :: text)) := by
  change ite _ _ (ite _ _ _) = _
  rw [hclose, if_neg Bool.false_ne_true]

end Quotes

/-! ## Block texts -/

section Block

variable (s : Scanner) (start : Pos) {run : Nat} (held : Bool) (text : List Char) {c : Char}

/-- The first quotes in a row, up to two, may yet be part of the text. -/
theorem stepBlock_quote (hrun : run < 2) :
    s.stepBlock start run held text '"' =
      s.into (.block start (run + 1) (if run = 0 then text.head? == some '\\' else held)
        ('"' :: text)) := by
  rw [stepBlock, if_pos rfl, if_pos hrun]

/-- The third quote in a row closes the text unless the first was escaped. -/
theorem stepBlock_third (hrun : ¬ run < 2) :
    s.stepBlock start run held text '"' =
      if held then s.into (.block start 0 false ('"' :: text))
      else s.closeBlock start (Literal.blockValue? (text.drop 2).reverse) := by
  have hzero : run ≠ 0 := by omega
  simp only [stepBlock, if_true, if_neg hrun, if_neg hzero]

/-- Whatever is no quote goes on with a block text, line ends among them, and breaks a row of quotes
off. -/
theorem stepBlock_other (hc : c ≠ '"') :
    s.stepBlock start run held text c =
      ⟨if c = '\n' then s.pos.nextLine else s.pos.right 1, .block start 0 false (c :: text),
        s.found⟩ := by
  rw [stepBlock, if_neg hc]
  split <;> rfl

end Block

end Scanner

/-! ## Places -/

@[simp] theorem relabelLexemes_unplacing_idem (input : List Lexeme) :
    relabelLexemes .unplacing (relabelLexemes .unplacing input) =
      relabelLexemes .unplacing input := by
  rw [relabelLexemes, relabelLexemes, List.map_map]
  refine List.map_congr_left fun lexeme _ => ?_
  obtain ⟨pos, token⟩ := lexeme
  cases token <;> rfl

/-- Lexemes that differ in places only differ no more once texts are forgotten as well. -/
theorem relabelLexemes_outlining {input input' : List Lexeme}
    (h : relabelLexemes .unplacing input = relabelLexemes .unplacing input') :
    relabelLexemes .outlining input = relabelLexemes .outlining input' := by
  have hfactor : ∀ input : List Lexeme, relabelLexemes .outlining input =
      relabelLexemes .outlining (relabelLexemes .unplacing input) := by
    intro input
    rw [relabelLexemes, relabelLexemes, relabelLexemes, List.map_map]
    refine List.map_congr_left fun lexeme _ => ?_
    obtain ⟨pos, token⟩ := lexeme
    cases token <;> rfl
  rw [hfactor input, hfactor input', h]

/-- The mode with its place forgotten. -/
def Mode.unplaced : Mode → Mode
  | .between => .between
  | .comment => .comment
  | .name _ text => .name .first text
  | .number _ text => .number .first text
  | .dots _ two => .dots .first two
  | .quotes _ two => .quotes .first two
  | .string _ escaped text => .string .first escaped text
  | .block _ run held text => .block .first run held text
  | .malformed _ fault => .malformed .first fault

@[simp] theorem Mode.unplaced_idem (mode : Mode) : mode.unplaced.unplaced = mode.unplaced := by
  cases mode <;> rfl

namespace Scanner

/-- The scanner with every place forgotten. -/
def unplaced (s : Scanner) : Scanner :=
  ⟨.first, s.mode.unplaced, relabelLexemes .unplacing s.found⟩

/-- Do two scanners differ in places only? -/
def Alike (s u : Scanner) : Prop := s.unplaced = u.unplaced

/-- Scanners are alike when their modes and their lexemes are, whatever place each has reached. -/
theorem alike_iff {s u : Scanner} :
    s.Alike u ↔ s.mode.unplaced = u.mode.unplaced ∧
      relabelLexemes .unplacing s.found = relabelLexemes .unplacing u.found := by
  simp [Alike, unplaced]

section Unplaced

variable {p q : Pos} {mode mode' : Mode} {found : List Lexeme}

/-- Modes that agree up to their places make scanners alike, lexemes with and without places before
them. -/
theorem alike_mode (h : mode.unplaced = mode'.unplaced) :
    Alike ⟨p, mode, relabelLexemes .unplacing found⟩ ⟨q, mode', found⟩ :=
  alike_iff.mpr ⟨h, relabelLexemes_unplacing_idem _⟩

/-- One more lexeme of one token keeps scanners alike, wherever each of them found it. -/
theorem alike_found {start start' : Pos} (token : Token) :
    Alike ⟨p, .between, ⟨start, token⟩ :: relabelLexemes .unplacing found⟩
      ⟨q, .between, ⟨start', token⟩ :: found⟩ :=
  alike_iff.mpr ⟨rfl, congrArg (List.cons _) (relabelLexemes_unplacing_idem _)⟩

end Unplaced

/-- A scanner is like the one with its places forgotten. -/
theorem alike_unplaced (s : Scanner) : s.unplaced.Alike s := alike_mode (Mode.unplaced_idem _)

/-- Handing a lexeme on, or failing to, does not depend on places. -/
theorem emit_unplaced (s : Scanner) (p q : Pos) (token? : Option Token) :
    (s.unplaced.emit p token?).Alike (s.emit q token?) := by
  cases token? with
  | none => exact alike_mode rfl
  | some token => exact alike_found token

/-- Ending a block text does not depend on places, with a value and without one. -/
theorem closeBlock_unplaced (s : Scanner) (p q : Pos) (value? : Option (List Char)) :
    (s.unplaced.closeBlock p value?).Alike (s.closeBlock q value?) := by
  cases value? with
  | none => exact alike_mode rfl
  | some value => exact alike_found _

/-- What a character opens does not depend on places. -/
theorem begin_unplaced (s : Scanner) (c : Char) : (s.unplaced.begin c).Alike (s.begin c) := by
  rw [begin_eq, begin_eq]
  cases Opening.ofChar c with
  | mark found => exact alike_found (.punct found)
  | skip move => exact alike_unplaced s
  | _ => exact alike_mode rfl

/-- Going on after a lexeme does not depend on places. -/
theorem resume_unplaced (s : Scanner) (c : Char) : (s.unplaced.resume c).Alike (s.resume c) := by
  obtain ⟨pos, mode, found⟩ := s
  cases mode with
  | malformed start fault => exact alike_unplaced _
  | _ => exact begin_unplaced _ c

theorem Alike.resume {s u : Scanner} (h : s.Alike u) (c : Char) :
    (s.resume c).Alike (u.resume c) :=
  calc (s.resume c).unplaced
      _ = (s.unplaced.resume c).unplaced := (resume_unplaced s c).symm
      _ = (u.unplaced.resume c).unplaced := by rw [h]
      _ = (u.resume c).unplaced := resume_unplaced u c

/-- Inside a block text what a character does depends on the row of quotes before it, not on
places. -/
theorem stepBlock_unplaced (s : Scanner) (start : Pos) (run : Nat) (held : Bool)
    (text : List Char) (c : Char) :
    (s.unplaced.stepBlock .first run held text c).Alike (s.stepBlock start run held text c) := by
  by_cases hquote : c = '"'
  · subst hquote
    by_cases hrun : run < 2
    · rw [stepBlock_quote _ _ _ _ hrun, stepBlock_quote _ _ _ _ hrun]
      exact alike_mode rfl
    · rw [stepBlock_third _ _ _ _ hrun, stepBlock_third _ _ _ _ hrun]
      cases held with
      | true => exact alike_mode rfl
      | false => exact closeBlock_unplaced s .first start _
  · rw [stepBlock_other _ _ _ _ hquote, stepBlock_other _ _ _ _ hquote]
    exact alike_mode rfl

/-- What a scanner does with a character does not depend on places. -/
theorem step_unplaced (s : Scanner) (c : Char) : (s.unplaced.step c).Alike (s.step c) := by
  obtain ⟨pos, mode, found⟩ := s
  -- both sides decide by the character and by what the mode holds but for its place, so the same
  -- branch is taken on both
  cases mode with
  | between => exact begin_unplaced _ c
  | comment =>
    change Alike (ite _ _ _) (ite _ _ _)
    split
    · exact alike_mode rfl
    · exact alike_unplaced _
  | name start text =>
    change Alike (ite _ _ _) (ite _ _ _)
    split
    · exact alike_mode rfl
    · exact (emit_unplaced ⟨pos, .name start text, found⟩ _ _ _).resume c
  | number start text =>
    change Alike (ite _ _ _) (ite _ _ _)
    split
    · exact (emit_unplaced ⟨pos, .number start text, found⟩ _ _ _).resume c
    · exact alike_mode rfl
  | dots start two =>
    change Alike (ite _ _ _) (ite _ _ _)
    split
    · cases two with
      | true => exact alike_found _
      | false => exact alike_mode rfl
    · exact alike_mode rfl
  | quotes start two =>
    change Alike (ite _ _ _) (ite _ _ _)
    split
    · cases two <;> exact alike_mode rfl
    · cases two with
      | true =>
        rw [if_pos rfl, if_pos rfl]
        exact (emit_unplaced ⟨pos, .quotes start true, found⟩ _ _ _).resume c
      | false =>
        rw [if_neg Bool.false_ne_true, if_neg Bool.false_ne_true]
        split <;> exact alike_mode rfl
  | string start escaped text =>
    change Alike (ite _ _ _) (ite _ _ _)
    split
    · exact alike_mode rfl
    · split
      · cases hvalue : stringToken? text with
        | none => exact alike_mode rfl
        | some token => exact alike_found token
      · exact alike_mode rfl
  | block start run held text =>
    exact stepBlock_unplaced ⟨pos, .block start run held text, found⟩ start run held text c
  | malformed start fault => exact alike_unplaced _

/-- Scanners that differ in places only take a character alike. -/
theorem Alike.step {s u : Scanner} (h : s.Alike u) (c : Char) : (s.step c).Alike (u.step c) :=
  calc (s.step c).unplaced
      _ = (s.unplaced.step c).unplaced := (step_unplaced s c).symm
      _ = (u.unplaced.step c).unplaced := by rw [h]
      _ = (u.step c).unplaced := step_unplaced u c

/-- Scanners that differ in places only take a text alike. -/
theorem Alike.run {s u : Scanner} (h : s.Alike u) (text : List Char) :
    (s.run text).Alike (u.run text) := by
  induction text generalizing s u with
  | nil => exact h
  | cons c rest ih => exact ih (h.step c)

/-- Ending the text does not depend on places. -/
theorem close_unplaced (s : Scanner) : s.unplaced.close.Alike s.close := by
  obtain ⟨pos, mode, found⟩ := s
  cases mode with
  | between => exact alike_unplaced _
  | malformed start fault => exact alike_unplaced _
  | name start text => exact emit_unplaced ⟨pos, .name start text, found⟩ _ _ _
  | number start text => exact emit_unplaced ⟨pos, .number start text, found⟩ _ _ _
  | quotes start two =>
    cases two with
    | true => exact alike_found _
    | false => exact alike_mode rfl
  | _ => exact alike_mode rfl

/-- Scanners that differ in places only have read the same lexemes, up to places, and as far. -/
theorem Alike.scan_close {s u : Scanner} (h : s.Alike u) :
    s.close.scan.complete = u.close.scan.complete ∧
      relabelLexemes .unplacing s.close.scan.lexemes =
        relabelLexemes .unplacing u.close.scan.lexemes := by
  have hclose : s.close.Alike u.close :=
    calc s.close.unplaced
      _ = s.unplaced.close.unplaced := (close_unplaced s).symm
      _ = u.unplaced.close.unplaced := by rw [h]
      _ = u.close.unplaced := close_unplaced u
  have hscan : ∀ s : Scanner, s.scan.complete = s.unplaced.scan.complete ∧
      relabelLexemes .unplacing s.scan.lexemes = s.unplaced.scan.lexemes := by
    rintro ⟨pos, mode, found⟩
    cases mode <;> exact ⟨rfl, List.map_reverse⟩
  rw [(hscan s.close).1, (hscan u.close).1, (hscan s.close).2, (hscan u.close).2, hclose]
  exact ⟨rfl, rfl⟩

/-! ## Earlier lexemes -/

/-- The scanner with lexemes found earlier, in reverse, before its own. -/
def after (earlier : List Lexeme) (s : Scanner) : Scanner :=
  { s with found := s.found ++ earlier }

section After

variable (earlier : List Lexeme) (s : Scanner)

theorem emit_after (start : Pos) (token? : Option Token) :
    (s.after earlier).emit start token? = (s.emit start token?).after earlier := by
  cases token? <;> rfl

theorem closeBlock_after (start : Pos) (value? : Option (List Char)) :
    (s.after earlier).closeBlock start value? = (s.closeBlock start value?).after earlier := by
  cases value? <;> rfl

theorem begin_after (c : Char) : (s.after earlier).begin c = (s.begin c).after earlier := by
  rw [begin_eq, begin_eq]
  cases Opening.ofChar c <;> rfl

/-- Going on after a lexeme does not depend on the lexemes found earlier. -/
theorem resume_after (c : Char) : (s.after earlier).resume c = (s.resume c).after earlier := by
  obtain ⟨pos, mode, found⟩ := s
  cases mode with
  | malformed start fault => rfl
  | _ => exact begin_after earlier _ c

/-- Inside a block text nothing depends on the lexemes found earlier. -/
theorem stepBlock_after (start : Pos) (run : Nat) (held : Bool) (text : List Char) (c : Char) :
    (s.after earlier).stepBlock start run held text c =
      (s.stepBlock start run held text c).after earlier := by
  by_cases hquote : c = '"'
  · subst hquote
    by_cases hrun : run < 2
    · rw [stepBlock_quote _ _ _ _ hrun, stepBlock_quote _ _ _ _ hrun]
      rfl
    · rw [stepBlock_third _ _ _ _ hrun, stepBlock_third _ _ _ _ hrun]
      cases held with
      | true => rfl
      | false => exact closeBlock_after earlier s start _
  · rw [stepBlock_other _ _ _ _ hquote, stepBlock_other _ _ _ _ hquote]
    rfl

/-- What a scanner does with a character does not depend on the lexemes found earlier. -/
theorem step_after (c : Char) : (s.after earlier).step c = (s.step c).after earlier := by
  obtain ⟨pos, mode, found⟩ := s
  cases mode with
  | between => exact begin_after earlier _ c
  | comment =>
    change ite _ _ _ = after earlier (ite _ _ _)
    split <;> rfl
  | name start text =>
    change ite _ _ _ = after earlier (ite _ _ _)
    split
    · rfl
    · rw [← resume_after, ← emit_after]
  | number start text =>
    change ite _ _ _ = after earlier (ite _ _ _)
    split
    · rw [← resume_after, ← emit_after]
    · rfl
  | dots start two =>
    change ite _ _ _ = after earlier (ite _ _ _)
    split
    · cases two <;> rfl
    · rfl
  | quotes start two =>
    change ite _ _ _ = after earlier (ite _ _ _)
    split
    · cases two <;> rfl
    · cases two with
      | true =>
        rw [if_pos rfl, if_pos rfl, ← resume_after, ← emit_after]
      | false =>
        rw [if_neg Bool.false_ne_true, if_neg Bool.false_ne_true]
        split <;> rfl
  | string start escaped text =>
    change ite _ _ _ = after earlier (ite _ _ _)
    split
    · rfl
    · split
      · cases hvalue : stringToken? text <;> rfl
      · rfl
  | block start run held text => exact stepBlock_after earlier _ start run held text c
  | malformed start fault => rfl

/-- A whole text is taken as it would be without the lexemes found earlier. -/
theorem run_after (text : List Char) : (s.after earlier).run text = (s.run text).after earlier := by
  induction text generalizing s with
  | nil => rfl
  | cons c rest ih => rw [run_cons, run_cons, step_after, ih]

/-- Lexemes found earlier come before those of the scan, which is otherwise as it would be without
them. -/
theorem scan_close_after :
    (s.after earlier).close.scan =
      { s.close.scan with lexemes := earlier.reverse ++ s.close.scan.lexemes } := by
  have hclose : (s.after earlier).close = s.close.after earlier := by
    obtain ⟨pos, mode, found⟩ := s
    cases mode with
    | name start text => rfl
    | number start text => exact emit_after earlier ⟨pos, .number start text, found⟩ start _
    | quotes start two => cases two <;> rfl
    | _ => rfl
  have hscan : ∀ s : Scanner, (s.after earlier).scan =
      { s.scan with lexemes := earlier.reverse ++ s.scan.lexemes } := by
    rintro ⟨pos, mode, found⟩
    have hfound : (found ++ earlier).reverse = earlier.reverse ++ found.reverse :=
      List.reverse_append
    cases mode <;> simp [after, scan, hfound]
  rw [hclose, hscan]

end After

end Scanner

/-! ## Comments and literals -/

/-- Is the scanner inside a quoted text or a block text? -/
def Mode.inLiteral : Mode → Bool
  | .quotes _ two => !two
  | .string .. => true
  | .block .. => true
  | _ => false

/-- Is the scanner neither in a comment nor in quotes of any kind? -/
def Mode.isPlain : Mode → Bool
  | .between => true
  | .name .. => true
  | .number .. => true
  | .dots .. => true
  | .malformed .. => true
  | _ => false

namespace Scanner

/-- A mode is plain, or a comment that just started or goes on, or in quotes that just started or
go on. -/
def Leads (mode : Mode) (c : Char) (next : Mode) : Prop :=
  next.isPlain = true ∨ (next = .comment ∧ (c = '#' ∨ mode = .comment)) ∨
    (next ≠ .comment ∧ (c = '"' ∨ mode.inLiteral = true))

/-- Between two lexemes a `#` alone leads into a comment and a quote alone into a literal. -/
theorem leads_begin {s : Scanner} (c : Char) (hs : s.mode.isPlain = true) (mode : Mode) :
    Leads mode c (s.begin c).mode := by
  rw [begin_eq]
  cases hopening : Opening.ofChar c with
  | skip move => exact Or.inl hs
  | comment => exact Or.inr (Or.inl ⟨rfl, Or.inl (Opening.eq_of_comment hopening)⟩)
  | quotes =>
    exact Or.inr (Or.inr ⟨Mode.noConfusion, Or.inl (Opening.eq_of_quotes hopening)⟩)
  | _ => exact Or.inl rfl

theorem leads_resume_emit (s : Scanner) (start : Pos) (token? : Option Token) (c : Char)
    (mode : Mode) : Leads mode c ((s.emit start token?).resume c).mode := by
  cases token? with
  | none => exact Or.inl rfl
  | some token => exact leads_begin c rfl mode

/-- A block text that ends leaves the scanner outside of literals, also when it has no value. -/
theorem isPlain_closeBlock (s : Scanner) (start : Pos) (value? : Option (List Char)) :
    (s.closeBlock start value?).mode.isPlain = true := by
  cases value? <;> rfl

/-- Where a character can lead: comments start with a `#` only, and literals with a quote. -/
theorem leads_step (s : Scanner) (c : Char) : Leads s.mode c (s.step c).mode := by
  obtain ⟨pos, mode, found⟩ := s
  cases mode with
  | between => exact leads_begin c rfl _
  | comment =>
    change Leads _ c (ite _ _ _ : Scanner).mode
    split
    · exact Or.inl rfl
    · exact Or.inr (Or.inl ⟨rfl, Or.inr rfl⟩)
  | name start text =>
    change Leads _ c (ite _ _ _ : Scanner).mode
    split
    · exact Or.inl rfl
    · exact leads_resume_emit _ start _ c _
  | number start text =>
    change Leads _ c (ite _ _ _ : Scanner).mode
    split
    · exact leads_resume_emit _ start _ c _
    · exact Or.inl rfl
  | dots start two =>
    change Leads _ c (ite _ _ _ : Scanner).mode
    split
    · cases two <;> exact Or.inl rfl
    · exact Or.inl rfl
  | quotes start two =>
    by_cases hquote : c = '"'
    · subst hquote
      cases two <;> exact Or.inr (Or.inr ⟨Mode.noConfusion, Or.inl rfl⟩)
    · cases two with
      | true =>
        rw [step_quotes_end hquote]
        exact leads_resume_emit _ start _ c _
      | false =>
        rw [step_quote_open hquote]
        split
        · exact Or.inl rfl
        · exact Or.inr (Or.inr ⟨Mode.noConfusion, Or.inr rfl⟩)
  | string start escaped text =>
    cases hclose : c = '"' && !escaped with
    | true =>
      simp only [Bool.and_eq_true, decide_eq_true_eq, Bool.not_eq_true'] at hclose
      obtain ⟨rfl, rfl⟩ := hclose
      rw [step_string_close]
      cases stringToken? text <;> exact Or.inl rfl
    | false =>
      rw [step_string_more hclose]
      split
      · exact Or.inl rfl
      · exact Or.inr (Or.inr ⟨Mode.noConfusion, Or.inr rfl⟩)
  | block start run held text =>
    change Leads _ c (stepBlock _ start run held text c).mode
    by_cases hquote : c = '"'
    · subst hquote
      by_cases hrun : run < 2
      · rw [stepBlock_quote _ _ _ _ hrun]
        exact Or.inr (Or.inr ⟨Mode.noConfusion, Or.inr rfl⟩)
      · rw [stepBlock_third _ _ _ _ hrun]
        cases held with
        | true => exact Or.inr (Or.inr ⟨Mode.noConfusion, Or.inr rfl⟩)
        | false => exact Or.inl (isPlain_closeBlock _ start _)
    · rw [stepBlock_other _ _ _ _ hquote]
      exact Or.inr (Or.inr ⟨Mode.noConfusion, Or.inr rfl⟩)
  | malformed start fault => exact Or.inl rfl

/-- Without a `#` no comment starts. -/
theorem step_ne_comment {s : Scanner} {c : Char} (hs : s.mode ≠ .comment) (hc : c ≠ '#') :
    (s.step c).mode ≠ .comment := by
  rcases leads_step s c with hplain | ⟨-, hhash | hmode⟩ | ⟨hne, -⟩
  · intro hmode
    rw [hmode] at hplain
    cases hplain
  · exact absurd hhash hc
  · exact absurd hmode hs
  · exact hne

/-- Without a quote no literal starts. -/
theorem step_not_inLiteral {s : Scanner} {c : Char} (hs : s.mode.inLiteral = false)
    (hc : c ≠ '"') : (s.step c).mode.inLiteral = false := by
  rcases leads_step s c with hplain | ⟨hmode, -⟩ | ⟨-, hquote | hliteral⟩
  · cases hmode : (s.step c).mode <;> rw [hmode] at hplain <;> first | rfl | cases hplain
  · rw [hmode]
    rfl
  · exact absurd hquote hc
  · rw [hs] at hliteral
    cases hliteral

/-- A text without `#` starts no comment. -/
theorem run_ne_comment {s : Scanner} {text : List Char} (hs : s.mode ≠ .comment)
    (htext : '#' ∉ text) : (s.run text).mode ≠ .comment := by
  induction text generalizing s with
  | nil => exact hs
  | cons c rest ih =>
    rw [List.mem_cons, not_or] at htext
    exact ih (step_ne_comment hs (Ne.symm htext.1)) htext.2

/-! ## Where a document ends -/

/-- A scanner whose last lexeme is a closing brace stands after it: no other lexeme that the
end of the text could close is a brace. -/
theorem mode_of_ends {s : Scanner} {front : List Lexeme} {pos : Pos}
    (hcomplete : s.close.scan.complete = true)
    (hends : s.close.scan.lexemes = front ++ [⟨pos, .punct .braceClose⟩]) :
    s.mode = .between ∨ s.mode = .comment := by
  have hlast : ∀ found start token,
      (⟨start, token⟩ :: found : List Lexeme).reverse = front ++ [⟨pos, .punct .braceClose⟩] →
        token = .punct .braceClose := by
    intro found start token h
    rw [List.reverse_cons] at h
    have hlexeme := List.append_inj_right' h rfl
    cases hlexeme
    rfl
  obtain ⟨place, mode, found⟩ := s
  cases mode with
  | between => exact Or.inl rfl
  | comment => exact Or.inr rfl
  | name start text => cases hlast found start _ hends
  | number start text =>
    change (emit _ start (Literal.number? text.reverse)).scan.complete = true at hcomplete
    change (emit _ start (Literal.number? text.reverse)).scan.lexemes = _ at hends
    cases hnumber : Literal.number? text.reverse with
    | none =>
      rw [hnumber] at hcomplete
      cases hcomplete
    | some token =>
      rw [hnumber] at hends
      -- no number is a brace
      rcases Literal.eq_of_number? hnumber with ⟨n, rfl⟩ | ⟨x, rfl⟩ <;>
        cases hlast found start _ hends
  | quotes start two =>
    cases two with
    | true => cases hlast found start _ hends
    | false => cases hcomplete
  | _ => cases hcomplete

end Scanner

/-- What a scanner that is between two lexemes or in a comment has read is not changed by what
follows. -/
theorem Scan.lexemes_prefix {front : List Char} (tail : List Char)
    (h : (Scanner.start.run front).mode = .between ∨ (Scanner.start.run front).mode = .comment) :
    (Scan.ofChars front).lexemes <+: (Scan.ofChars (front ++ tail)).lexemes := by
  unfold Scan.ofChars
  rw [Scanner.run_append]
  rcases hfront : Scanner.start.run front with ⟨pos, mode, found⟩
  rw [hfront] at h
  have hfound : (⟨pos, mode, found⟩ : Scanner).close.scan.lexemes = found.reverse := by
    rw [Scanner.lexemes_scan]
    change mode = .between ∨ mode = .comment at h
    rcases h with rfl | rfl <;> rfl
  have hafter : (⟨pos, mode, found⟩ : Scanner) = Scanner.after found ⟨pos, mode, []⟩ := rfl
  rw [hfound, hafter, Scanner.run_after, Scanner.scan_close_after]
  exact List.prefix_append ..

/-- A text that ends between two lexemes is read before what follows it, and that is read as if
it stood alone, up to places. -/
theorem Scan.ofChars_append {front : List Char} (tail : List Char)
    (h : (Scanner.start.run front).mode = .between) :
    (Scan.ofChars (front ++ tail)).complete = (Scan.ofChars tail).complete ∧
      ∃ more, (Scan.ofChars (front ++ tail)).lexemes = (Scan.ofChars front).lexemes ++ more ∧
        relabelLexemes .unplacing more =
          relabelLexemes .unplacing (Scan.ofChars tail).lexemes := by
  unfold Scan.ofChars
  rw [Scanner.run_append]
  rcases hfront : Scanner.start.run front with ⟨pos, mode, found⟩
  rw [hfront] at h
  obtain rfl : mode = .between := h
  -- what follows is taken as from the start, but for the place and the lexemes found before
  have hafter : (⟨pos, .between, found⟩ : Scanner) = Scanner.after found ⟨pos, .between, []⟩ := rfl
  have hstart : Scanner.Alike ⟨pos, .between, []⟩ .start := Scanner.alike_iff.mpr ⟨rfl, rfl⟩
  obtain ⟨hcomplete, hlexemes⟩ := (hstart.run tail).scan_close
  rw [hafter, Scanner.run_after, Scanner.scan_close_after]
  exact ⟨hcomplete, _, rfl, hlexemes⟩

/-- A comment goes on to the end of the line. -/
theorem Scanner.run_comment {s : Scanner} {text : List Char} (hs : s.mode = .comment)
    (htext : ∀ c ∈ text, c ≠ '\r' ∧ c ≠ '\n') : s.run text = s := by
  induction text with
  | nil => rfl
  | cons c rest ih =>
    rw [List.forall_mem_cons] at htext
    have hstep : s.step c = s := by
      rw [step, hs]
      exact if_neg (by simp [htext.1])
    rw [run_cons, hstep, ih htext.2]

end Refetch
