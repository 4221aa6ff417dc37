import Refetch.Document.Reader
import Refetch.Proofs.Document.Relabelling

/-!
# Laws of readers

What the combinators of the grammar pass on from the readers they are given.

* `Reader.Carries` — relabelled lexemes are read to the relabelled value
-/

namespace Refetch

namespace Reader

variable {α β γ δ : Type}

/-! ## Outcomes of single steps -/

/-- A reader that fails fails with whatever comes after it. -/
theorem bind_error {r : Reader α} {f : α → Reader β} {input rest : List Lexeme}
    (h : r input = .error rest) : (r >>= f) input = .error rest := by
  change Reader.bind r f input = _
  rw [Reader.bind, h]

/-- A reader that takes nothing gives its value and leaves its input. -/
theorem pure_eq_ok {x y : α} {input rest : List Lexeme}
    (h : (pure x : Reader α) input = .ok (y, rest)) : y = x ∧ rest = input := by
  rw [pure_apply, Except.ok.injEq, Prod.mk.injEq] at h
  exact ⟨h.1.symm, h.2.symm⟩

/-- A mark that was read came first, at the place that was given. -/
theorem punct_eq_ok {mark : Punctuator} {pos : Pos} {input rest : List Lexeme}
    (h : punct mark input = .ok (pos, rest)) : input = ⟨pos, .punct mark⟩ :: rest := by
  unfold punct at h
  split at h
  · split at h
    · obtain ⟨rfl, rfl⟩ := Prod.mk.inj (Except.ok.inj h)
      simp [*]
    · cases h
  · cases h

theorem punct_cons (mark : Punctuator) (pos : Pos) (rest : List Lexeme) :
    punct mark (⟨pos, .punct mark⟩ :: rest) = .ok (pos, rest) := by
  rw [punct, if_pos rfl]

/-- A name that was read came first. -/
theorem name_eq_ok {text : String} {input rest : List Lexeme}
    (h : name input = .ok (text, rest)) : ∃ pos, input = ⟨pos, .name text⟩ :: rest := by
  unfold name at h
  split at h
  · obtain ⟨rfl, rfl⟩ := Prod.mk.inj (Except.ok.inj h)
    exact ⟨_, rfl⟩
  · cases h

/-- Does an input start with a mark? -/
def startsWith (mark : Punctuator) : List Lexeme → Bool
  | ⟨_, .punct found⟩ :: _ => found = mark
  | _ => false

/-- To look whether a mark comes first leaves the input as it is and never fails. -/
theorem sees_apply (mark : Punctuator) (input : List Lexeme) :
    sees mark input = .ok (startsWith mark input, input) := by
  rcases input with _ | ⟨⟨pos, token⟩, rest⟩
  · rfl
  · cases token <;> rfl

/-- What is seen of an input is seen of its first lexeme. -/
theorem startsWith_congr (mark : Punctuator) {input other : List Lexeme}
    (h : input.head? = other.head?) : startsWith mark input = startsWith mark other := by
  cases input with
  | nil =>
    cases other with
    | nil => rfl
    | cons lexeme other => cases h
  | cons lexeme input =>
    cases other with
    | nil => cases h
    | cons lexeme' other =>
      obtain rfl := Option.some.inj h
      obtain ⟨pos, token⟩ := lexeme
      cases token <;> rfl

end Reader

/-! ## Relabelled lexemes -/

/-- The token with its text relabelled. -/
def Token.relabel (φ : Relabelling) : Token → Token
  | .string text => .string (φ.text text)
  | .punct mark => .punct mark
  | .name text => .name text
  | .int n => .int n
  | .float x => .float x

/-- The lexeme with its place and text relabelled. -/
def Lexeme.relabel (φ : Relabelling) (lexeme : Lexeme) : Lexeme :=
  ⟨φ.place lexeme.pos, lexeme.token.relabel φ⟩

/-- The lexemes relabelled one by one. -/
def relabelLexemes (φ : Relabelling) (input : List Lexeme) : List Lexeme :=
  input.map (·.relabel φ)

namespace Reader

variable {α β γ δ : Type} {φ : Relabelling}

/-- An outcome with its value changed by `f` and the lexemes left over relabelled. -/
def relabelOutcome (φ : Relabelling) (f : α → β) :
    Except (List Lexeme) (α × List Lexeme) → Except (List Lexeme) (β × List Lexeme)
  | .ok (x, rest) => .ok (f x, relabelLexemes φ rest)
  | .error rest => .error (relabelLexemes φ rest)

/-- On relabelled lexemes `s` does what `r` does on the lexemes themselves, with `f` applied
to the value. -/
def Carries (φ : Relabelling) (f : α → β) (r : Reader α) (s : Reader β) : Prop :=
  ∀ input, s (relabelLexemes φ input) = relabelOutcome φ f (r input)

namespace Carries

variable {f : α → β} {g : γ → δ} {r : Reader α} {s : Reader β}

protected theorem pure {x : α} {y : β} (h : y = f x) :
    Carries φ f (pure x) (pure y) := by
  intro input
  rw [h]
  rfl

protected theorem fail : Carries φ f Reader.fail Reader.fail := fun _ => rfl

/-- Readers that carry a relabelling do so one after the other, the second from each value of the
first. -/
protected theorem bind {k : α → Reader γ} {l : β → Reader δ} (hr : Carries φ f r s)
    (hk : ∀ x, Carries φ g (k x) (l (f x))) : Carries φ g (r >>= k) (s >>= l) := by
  intro input
  have hs := hr input
  rcases hx : r input with rest | ⟨x, rest⟩
  · rw [hx] at hs
    rw [bind_error hx, bind_error hs]
    rfl
  · rw [hx] at hs
    rw [bind_ok hx, bind_ok hs]
    exact hk x rest

theorem peek : Carries φ (Option.map (·.relabel φ)) Reader.peek Reader.peek := by
  intro input
  cases input <;> rfl

theorem here : Carries φ φ.place Reader.here Reader.here := by
  intro input
  cases input <;> rfl

/-- No relabelling changes which mark comes first. -/
theorem sees (mark : Punctuator) : Carries φ id (Reader.sees mark) (Reader.sees mark) := by
  intro input
  rcases input with _ | ⟨⟨pos, token⟩, rest⟩
  · rfl
  · cases token <;> rfl

/-- The place that a mark is found at is relabelled, and the mark is not. -/
theorem punct (mark : Punctuator) :
    Carries φ φ.place (Reader.punct mark) (Reader.punct mark) := by
  intro input
  rcases input with _ | ⟨⟨pos, token⟩, rest⟩
  · rfl
  · cases token with
    | punct found =>
      change Reader.punct mark (⟨φ.place pos, .punct found⟩ :: relabelLexemes φ rest) = _
      by_cases h : found = mark
      · rw [Reader.punct, Reader.punct, if_pos h, if_pos h]
        rfl
      · rw [Reader.punct, Reader.punct, if_neg h, if_neg h]
        rfl
    | _ => rfl

/-- No relabelling changes a name. -/
theorem name : Carries φ id Reader.name Reader.name := by
  intro input
  rcases input with _ | ⟨⟨pos, token⟩, rest⟩
  · rfl
  · cases token <;> rfl

theorem name? : Carries φ id Reader.name? Reader.name? := by
  intro input
  rcases input with _ | ⟨⟨pos, token⟩, rest⟩
  · rfl
  · cases token <;> rfl

theorem keyword (text : String) :
    Carries φ id (Reader.keyword text) (Reader.keyword text) := by
  intro input
  rcases input with _ | ⟨⟨pos, token⟩, rest⟩
  · rfl
  · cases token with
    | name found =>
      change Reader.keyword text (⟨φ.place pos, .name found⟩ :: relabelLexemes φ rest) = _
      by_cases h : found = text
      · rw [Reader.keyword, Reader.keyword, if_pos h, if_pos h]
        rfl
      · rw [Reader.keyword, Reader.keyword, if_neg h, if_neg h]
        rfl
    | _ => rfl

/-- Items up to a mark are relabelled one by one, and so is the place of the mark; the bound may be
relabelled too, as only its length counts. -/
theorem upToClose (close : Punctuator) (hr : Carries φ f r s) (bound : List Lexeme) :
    Carries φ (fun found => (found.1.map f, φ.place found.2))
      (Reader.upToClose close r bound) (Reader.upToClose close s (relabelLexemes φ bound)) := by
  induction bound with
  | nil => exact (punct close).bind fun stop => Carries.pure rfl
  | cons lexeme bound ih =>
    refine (sees close).bind fun seen => ?_
    cases seen with
    | true => exact (punct close).bind fun stop => Carries.pure rfl
    | false => exact hr.bind fun x => ih.bind fun found => Carries.pure rfl

theorem itemsUntil (close : Punctuator) (hr : Carries φ f r s) :
    Carries φ (fun found => (found.1.map f, φ.place found.2))
      (Reader.itemsUntil close r) (Reader.itemsUntil close s) :=
  fun input => upToClose close hr input input

theorem between (opening close : Punctuator) (hr : Carries φ f r s) :
    Carries φ (List.map f) (Reader.between opening close r)
      (Reader.between opening close s) :=
  (punct opening).bind fun _ => (itemsUntil close hr).bind fun _ => Carries.pure rfl

/-- The place of the first mark is relabelled with the items that follow it. -/
theorem someBetween (opening close : Punctuator) (hr : Carries φ f r s) :
    Carries φ (fun found => (found.1.relabel φ, found.2.map f))
      (Reader.someBetween opening close r) (Reader.someBetween opening close s) :=
  (punct opening).bind fun _ => hr.bind fun _ => (itemsUntil close hr).bind fun _ =>
    Carries.pure rfl

/-- As many items are read while a mark is seen as before, each relabelled. -/
theorem whileSeesUpTo (mark : Punctuator) (hr : Carries φ f r s) (bound : List Lexeme) :
    Carries φ (List.map f) (Reader.whileSeesUpTo mark r bound)
      (Reader.whileSeesUpTo mark s (relabelLexemes φ bound)) := by
  induction bound with
  | nil => exact Carries.pure rfl
  | cons lexeme bound ih =>
    refine (sees mark).bind fun seen => ?_
    cases seen with
    | true => exact hr.bind fun x => ih.bind fun rest => Carries.pure rfl
    | false => exact Carries.pure rfl

theorem whileSees (mark : Punctuator) (hr : Carries φ f r s) :
    Carries φ (List.map f) (Reader.whileSees mark r) (Reader.whileSees mark s) :=
  fun input => whileSeesUpTo mark hr input input

theorem toEndUpTo (hr : Carries φ f r s) (bound : List Lexeme) :
    Carries φ (List.map f) (Reader.toEndUpTo r bound)
      (Reader.toEndUpTo s (relabelLexemes φ bound)) := by
  induction bound with
  | nil => exact Carries.pure rfl
  | cons lexeme bound ih =>
    refine peek.bind fun next => ?_
    cases next with
    | none => exact Carries.pure rfl
    | some token => exact hr.bind fun x => ih.bind fun rest => Carries.pure rfl

theorem toEnd (hr : Carries φ f r s) :
    Carries φ (List.map f) (Reader.toEnd r) (Reader.toEnd s) :=
  fun input => toEndUpTo hr input input

end Carries

end Reader

end Refetch
