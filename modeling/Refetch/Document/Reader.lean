import Refetch.Document.Token

/-!
# Reading lexemes

The combinators that the grammar is written in. A `Reader` takes lexemes from the front of a
list. When it fails it hands back the lexemes from the offending one on, so that the place
of an error is always the start of the first lexeme that cannot continue the text.

No reader takes back what it has consumed: one lexeme of look-ahead decides.
-/

namespace Refetch

/-- Reads a value off the front of a list of lexemes. A failure holds the lexemes from the
offending one on. -/
def Reader (α : Type) : Type := List Lexeme → Except (List Lexeme) (α × List Lexeme)

namespace Reader

variable {α β : Type}

/-- Read nothing. -/
protected def pure (x : α) : Reader α := fun input => .ok (x, input)

/-- Read with one reader, then with the one that its value selects. -/
protected def bind (r : Reader α) (f : α → Reader β) : Reader β := fun input =>
  match r input with
  | .ok (x, rest) => f x rest
  | .error rest => .error rest

instance : Monad Reader where
  pure := Reader.pure
  bind := Reader.bind

/-- Refuse the next lexeme. -/
def fail : Reader α := fun input => .error input

@[simp] theorem pure_apply (x : α) (input : List Lexeme) :
    (pure x : Reader α) input = .ok (x, input) := rfl

@[simp] theorem fail_apply (input : List Lexeme) : (fail : Reader α) input = .error input := rfl

/-- Introduction for `bind`. -/
theorem bind_ok {r : Reader α} {f : α → Reader β} {input rest : List Lexeme} {x : α}
    (h : r input = .ok (x, rest)) : (r >>= f) input = f x rest := by
  change Reader.bind r f input = _
  rw [Reader.bind, h]

/-- Inversion for `bind`. -/
theorem bind_eq_ok {r : Reader α} {f : α → Reader β} {input rest : List Lexeme} {y : β}
    (h : (r >>= f) input = .ok (y, rest)) :
    ∃ x middle, r input = .ok (x, middle) ∧ f x middle = .ok (y, rest) := by
  change Reader.bind r f input = _ at h
  rw [Reader.bind] at h
  rcases hr : r input with middle | ⟨x, middle⟩ <;> rw [hr] at h
  · cases h
  · exact ⟨x, middle, rfl, h⟩

/-! ## Single lexemes -/

/-- The next token, left in place. -/
def peek : Reader (Option Token) := fun input => .ok (input.head?.map Lexeme.token, input)

/-- The place of the next lexeme, left in place. There must be one. -/
def here : Reader Pos
  | [] => .error []
  | lexeme :: rest => .ok (lexeme.pos, lexeme :: rest)

/-- Is the next lexeme this mark? -/
def sees (mark : Punctuator) : Reader Bool := fun input =>
  match input with
  | ⟨_, .punct found⟩ :: _ => .ok (found = mark, input)
  | _ => .ok (false, input)

/-- Takes a mark and gives its place. -/
def punct (mark : Punctuator) : Reader Pos
  | ⟨pos, .punct found⟩ :: rest =>
    if found = mark then .ok (pos, rest) else .error (⟨pos, .punct found⟩ :: rest)
  | input => .error input

/-- Takes a name. -/
def name : Reader String
  | ⟨_, .name text⟩ :: rest => .ok (text, rest)
  | input => .error input

/-- Takes one particular name. -/
def keyword (text : String) : Reader Unit
  | ⟨pos, .name found⟩ :: rest =>
    if found = text then .ok ((), rest) else .error (⟨pos, .name found⟩ :: rest)
  | input => .error input

/-- Takes a name if there is one. -/
def name? : Reader (Option String)
  | ⟨_, .name text⟩ :: rest => .ok (some text, rest)
  | input => .ok (none, input)

/-! ## Repetition

Items are not empty, so there are no more of them than lexemes. Each repetition is bounded by
a list, of which an item takes up one entry; the input itself serves. -/

/-- Items up to a closing mark, with the mark's place; no more of them than `bound` has
entries. -/
def upToClose (close : Punctuator) (item : Reader α) : (bound : List Lexeme) →
    Reader (List α × Pos)
  | [] => do
    let stop ← punct close
    return ([], stop)
  | _ :: bound => do
    if ← sees close then
      let stop ← punct close
      return ([], stop)
    else
      let x ← item
      let (rest, stop) ← upToClose close item bound
      return (x :: rest, stop)

/-- Items up to a closing mark, with the mark's place. -/
def itemsUntil (close : Punctuator) (item : Reader α) : Reader (List α × Pos) := fun input =>
  upToClose close item input input

/-- Any number of items between an opening and a closing mark. -/
def between (opening close : Punctuator) (item : Reader α) : Reader (List α) := do
  let _ ← punct opening
  let (items, _) ← itemsUntil close item
  return items

/-- One item or more between an opening and a closing mark, with the places of the two. -/
def someBetween (opening close : Punctuator) (item : Reader α) : Reader (Span × List α) := do
  let start ← punct opening
  let first ← item
  let (rest, stop) ← itemsUntil close item
  return (⟨start, stop⟩, first :: rest)

/-- Items for as long as the next lexeme is a mark; no more of them than `bound` has
entries. -/
def whileSeesUpTo (mark : Punctuator) (item : Reader α) : (bound : List Lexeme) →
    Reader (List α)
  | [] => return []
  | _ :: bound => do
    if ← sees mark then
      let x ← item
      let rest ← whileSeesUpTo mark item bound
      return x :: rest
    else
      return []

/-- Items for as long as the next lexeme is a mark, which every item takes. -/
def whileSees (mark : Punctuator) (item : Reader α) : Reader (List α) := fun input =>
  whileSeesUpTo mark item input input

/-- Items to the end of the input; no more of them than `bound` has entries. -/
def toEndUpTo (item : Reader α) : (bound : List Lexeme) → Reader (List α)
  | [] => return []
  | _ :: bound => do
    match ← peek with
    | none => return []
    | some _ =>
      let x ← item
      let rest ← toEndUpTo item bound
      return x :: rest

/-- Items to the end of the input. -/
def toEnd (item : Reader α) : Reader (List α) := fun input => toEndUpTo item input input

end Reader

end Refetch
