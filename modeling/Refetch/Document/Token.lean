import Refetch.Document.Basic

/-!
# Tokens

The words a document is read from: punctuators, names and literals. A `Lexeme` is a token
with the place where it starts.
-/

namespace Refetch

/-- A mark that stands for itself. -/
inductive Punctuator where
  /-- `(` -/
  | parenOpen
  /-- `)` -/
  | parenClose
  /-- `[` -/
  | bracketOpen
  /-- `]` -/
  | bracketClose
  /-- an opening brace -/
  | braceOpen
  /-- a closing brace -/
  | braceClose
  /-- `!` -/
  | bang
  /-- `$` -/
  | dollar
  /-- `:` -/
  | colon
  /-- `=` -/
  | equals
  /-- `@` -/
  | atSign
  /-- `|` -/
  | pipe
  /-- `&` -/
  | ampersand
  /-- `...` -/
  | ellipsis
  deriving DecidableEq, Repr, Inhabited

/-- The punctuator that a single character is. The ellipsis has three and is not among them. -/
def Punctuator.ofChar? : Char → Option Punctuator
  | '(' => some .parenOpen
  | ')' => some .parenClose
  | '[' => some .bracketOpen
  | ']' => some .bracketClose
  | '{' => some .braceOpen
  | '}' => some .braceClose
  | '!' => some .bang
  | '$' => some .dollar
  | ':' => some .colon
  | '=' => some .equals
  | '@' => some .atSign
  | '|' => some .pipe
  | '&' => some .ampersand
  | _ => none

/-- A word of a document. Literals hold the value they denote. -/
inductive Token where
  /-- a mark -/
  | punct (mark : Punctuator)
  /-- a name -/
  | name (text : String)
  /-- a whole number -/
  | int (n : Int)
  /-- a number with a point or an exponent -/
  | float (x : Float)
  /-- a quoted text -/
  | string (text : String)
  deriving Inhabited

/-- A token and the place where it starts. -/
structure Lexeme where
  /-- where it starts -/
  pos : Pos
  /-- the token -/
  token : Token
  deriving Inhabited

/-! ## Names -/

/-- Can the character start a name? Names are ASCII. -/
def isNameStart (c : Char) : Bool := c.isAlpha || c == '_'

/-- Can the character continue a name? Names are ASCII. -/
def isNameChar (c : Char) : Bool := c.isAlphanum || c == '_'

/-- Is the text a name, a letter or an underscore followed by letters, underscores and
digits? -/
def isName (text : String) : Bool :=
  match text.toList with
  | [] => false
  | c :: rest => isNameStart c && rest.all isNameChar

theorem isNameChar_of_isNameStart {c : Char} (h : isNameStart c = true) :
    isNameChar c = true := by
  simp only [isNameStart, Bool.or_eq_true] at h
  simp only [isNameChar, Char.isAlphanum, Bool.or_eq_true]
  exact h.imp_left Or.inl

end Refetch
