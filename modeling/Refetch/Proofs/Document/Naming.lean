import Refetch.Proofs.Document.Scanning

/-!
# Names in texts

A lexeme that is a name is a letter or an underscore, followed by letters, underscores and
digits: a scanner starts one with the first of these only and goes on with the others.

* `Scan.named` — every name among the lexemes of a text is one
-/

namespace Refetch

/-! ## Spelling -/

/-- A name is a character that starts one and characters that go on with it. -/
theorem isName_ofList_iff {text : List Char} :
    isName (.ofList text) = true ↔
      ∃ c rest, text = c :: rest ∧ isNameStart c = true ∧ ∀ d ∈ rest, isNameChar d = true := by
  rw [isName, String.toList_ofList]
  cases text with
  | nil => simp
  | cons c rest =>
    simp only [Bool.and_eq_true, List.all_eq_true, List.cons.injEq]
    constructor
    · intro h
      exact ⟨c, rest, ⟨rfl, rfl⟩, h⟩
    · rintro ⟨_, _, ⟨rfl, rfl⟩, h⟩
      exact h

theorem isName_iff {text : String} :
    isName text = true ↔
      ∃ c rest, text.toList = c :: rest ∧ isNameStart c = true ∧
        ∀ d ∈ rest, isNameChar d = true := by
  rw [← isName_ofList_iff, String.ofList_toList]

/-- What continues a name and cannot start one is a digit. -/
theorem isNameChar_iff {c : Char} :
    isNameChar c = true ↔ isNameStart c = true ∨ c.isDigit = true := by
  simp only [isNameChar, isNameStart, Char.isAlphanum, Bool.or_eq_true]
  constructor
  · rintro ((halpha | hdigit) | hscore)
    · exact Or.inl (Or.inl halpha)
    · exact Or.inr hdigit
    · exact Or.inl (Or.inr hscore)
  · rintro ((halpha | hscore) | hdigit)
    · exact Or.inl (Or.inl halpha)
    · exact Or.inr hscore
    · exact Or.inl (Or.inr hdigit)

/-- No digit starts a name. -/
theorem isNameStart_of_isDigit {c : Char} (h : c.isDigit = true) : isNameStart c = false := by
  obtain ⟨-, hdigit⟩ := Char.isDigit_iff_toNat.mp h
  -- letters and the underscore come behind the digits
  have hletter : ∀ first : Char, '9'.toNat < first.toNat → ¬ first ≤ c := by
    intro first hfirst hle
    have := UInt32.le_iff_toNat_le.mp hle
    exact absurd (Nat.lt_of_lt_of_le hfirst this) (Nat.not_lt.mpr hdigit)
  rw [Bool.eq_false_iff]
  intro hstart
  have hclasses : ((c.isUpper || c.isLower) || c == '_') = true := hstart
  rw [Bool.or_eq_true, Bool.or_eq_true, beq_iff_eq] at hclasses
  obtain (hupper | hlower) | rfl := hclasses
  · have hupper : 'A' ≤ c ∧ c ≤ 'Z' := of_decide_eq_true hupper
    exact hletter 'A' (by decide) hupper.1
  · have hlow : 'a' ≤ c := of_decide_eq_true (Bool.and_eq_true_iff.mp hlower).1
    exact hletter 'a' (by decide) hlow
  · cases h

theorem Opening.isNameStart_of_name {c : Char} (h : ofChar c = .name) : isNameStart c = true := by
  grind [Opening.ofChar]

/-- If the token is a name, it is spelled as one. -/
def Token.Named : Token → Prop
  | .name text => isName text = true
  | _ => True

/-- If the lexeme is a name, it is spelled as one. -/
def Lexeme.Named (lexeme : Lexeme) : Prop := lexeme.token.Named

/-- If a name is being read, what there is of it is spelled as one. -/
def Mode.Named : Mode → Prop
  | .name _ text => isName (.ofList text.reverse) = true
  | _ => True

theorem Mode.Named.more {start : Pos} {text : List Char} {c : Char}
    (h : (Mode.name start text).Named) (hc : isNameChar c = true) :
    (Mode.name start (c :: text)).Named := by
  obtain ⟨first, rest, htext, hfirst, hrest⟩ := isName_ofList_iff.mp h
  refine isName_ofList_iff.mpr ⟨first, rest ++ [c], ?_, hfirst, ?_⟩
  · rw [List.reverse_cons, htext, List.cons_append]
  · rw [List.forall_mem_append]
    exact ⟨hrest, by simpa using hc⟩

theorem Token.named_of_number? {text : List Char} {token : Token}
    (h : Literal.number? text = some token) : token.Named := by
  rcases Literal.eq_of_number? h with ⟨n, rfl⟩ | ⟨x, rfl⟩ <;> exact True.intro

theorem Token.named_of_stringToken? {text : List Char} {token : Token}
    (h : Scanner.stringToken? text = some token) : token.Named := by
  obtain ⟨value, -, rfl⟩ := Option.map_eq_some_iff.mp h
  exact True.intro

/-! ## Scanning -/

namespace Scanner

/-- The names found, and the one under way, are spelled as names. -/
def Named (s : Scanner) : Prop := s.mode.Named ∧ ∀ lexeme ∈ s.found, lexeme.Named

variable {s : Scanner}

theorem Named.emit_some (h : s.Named) (start : Pos) (token : Token) (htoken : token.Named) :
    (s.emit start (some token)).Named :=
  ⟨True.intro, List.forall_mem_cons.mpr ⟨htoken, h.2⟩⟩

theorem Named.emit (h : s.Named) (start : Pos) {token? : Option Token}
    (htoken : ∀ token, token? = some token → token.Named) : (s.emit start token?).Named := by
  cases token? with
  | none => exact ⟨True.intro, h.2⟩
  | some token => exact h.emit_some start token (htoken token rfl)

theorem Named.closeBlock (h : s.Named) (start : Pos) (value? : Option (List Char)) :
    (s.closeBlock start value?).Named := by
  cases value? with
  | none => exact ⟨True.intro, h.2⟩
  | some value => exact ⟨True.intro, List.forall_mem_cons.mpr ⟨True.intro, h.2⟩⟩

theorem Named.begin (h : s.Named) (c : Char) : (s.begin c).Named := by
  rw [begin_eq]
  cases hopening : Opening.ofChar c with
  | skip move => exact h
  | name =>
    have hstart := Opening.isNameStart_of_name hopening
    exact ⟨isName_ofList_iff.mpr ⟨c, [], rfl, hstart, by simp⟩, h.2⟩
  | mark found => exact h.emit_some s.pos (.punct found) True.intro
  | _ => exact ⟨True.intro, h.2⟩

theorem Named.resume (h : s.Named) (c : Char) : (s.resume c).Named := by
  obtain ⟨pos, mode, found⟩ := s
  cases mode with
  | malformed start fault => exact h
  | _ => exact h.begin c

theorem Named.stepBlock (h : s.Named) (start : Pos) (run : Nat) (held : Bool)
    (text : List Char) (c : Char) : (s.stepBlock start run held text c).Named := by
  by_cases hquote : c = '"'
  · subst hquote
    by_cases hrun : run < 2
    · rw [stepBlock_quote _ _ _ _ hrun]
      exact ⟨True.intro, h.2⟩
    · rw [stepBlock_third _ _ _ _ hrun]
      cases held with
      | true => exact ⟨True.intro, h.2⟩
      | false => exact h.closeBlock start _
  · rw [stepBlock_other _ _ _ _ hquote]
    exact ⟨True.intro, h.2⟩

/-- A name that goes on does so with a character of names. -/
theorem Named.step (h : s.Named) (c : Char) : (s.step c).Named := by
  obtain ⟨pos, mode, found⟩ := s
  cases mode with
  | between => exact h.begin c
  | comment =>
    change Named (ite _ _ _)
    split
    · exact ⟨True.intro, h.2⟩
    · exact h
  | name start text =>
    change Named (ite _ _ _)
    split
    · rename_i hchar
      exact ⟨Mode.Named.more h.1 hchar, h.2⟩
    · exact (h.emit_some start (nameToken text) h.1).resume c
  | number start text =>
    change Named (ite _ _ _)
    split
    · exact (h.emit start fun token => Token.named_of_number?).resume c
    · exact ⟨True.intro, h.2⟩
  | dots start two =>
    change Named (ite _ _ _)
    split
    · cases two with
      | true => exact h.emit_some start (.punct .ellipsis) True.intro
      | false => exact ⟨True.intro, h.2⟩
    · exact ⟨True.intro, h.2⟩
  | quotes start two =>
    by_cases hquote : c = '"'
    · subst hquote
      cases two <;> exact ⟨True.intro, h.2⟩
    · cases two with
      | true =>
        rw [step_quotes_end hquote]
        exact (h.emit_some start (.string "") True.intro).resume c
      | false =>
        rw [step_quote_open hquote]
        split <;> exact ⟨True.intro, h.2⟩
  | string start escaped text =>
    change Named (ite _ _ _)
    split
    · exact ⟨True.intro, h.2⟩
    · split
      · exact h.emit start fun token => Token.named_of_stringToken?
      · exact ⟨True.intro, h.2⟩
  | block start run held text => exact h.stepBlock start run held text c
  | malformed start fault => exact h

/-- After any text every name that was found is written as one. -/
theorem Named.run (h : s.Named) (text : List Char) : (s.run text).Named := by
  induction text generalizing s with
  | nil => exact h
  | cons c rest ih => exact ih (h.step c)

theorem Named.close (h : s.Named) : s.close.Named := by
  obtain ⟨pos, mode, found⟩ := s
  cases mode with
  | between => exact h
  | comment => exact ⟨True.intro, h.2⟩
  | name start text => exact h.emit_some start (nameToken text) h.1
  | number start text => exact h.emit start fun token => Token.named_of_number?
  | quotes start two =>
    cases two with
    | true => exact h.emit_some start (.string "") True.intro
    | false => exact ⟨True.intro, h.2⟩
  | malformed start fault => exact h
  | _ => exact ⟨True.intro, h.2⟩

/-- Every name among the lexemes of a text is written as one. -/
theorem Named.scan (h : s.Named) : ∀ lexeme ∈ s.scan.lexemes, lexeme.Named := by
  intro lexeme hmem
  rw [lexemes_scan, List.mem_reverse] at hmem
  exact h.2 lexeme hmem

end Scanner

/-- The names among the lexemes of a text are spelled as names. -/
theorem Scan.named (text : List Char) :
    ∀ lexeme ∈ (Scan.ofChars text).lexemes, lexeme.Named := by
  have hstart : Scanner.start.Named :=
    ⟨True.intro, fun lexeme hmem => absurd hmem List.not_mem_nil⟩
  exact (hstart.run text).close.scan

end Refetch
