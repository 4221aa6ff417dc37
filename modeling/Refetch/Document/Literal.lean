import Refetch.Text.Digits
import Refetch.Text.Lines
import Refetch.Decimal.Double
import Refetch.Document.Token

/-!
# Literals

What the number and text literals of a document denote. Each reader takes the characters of
one literal and answers `none` for one that is malformed: a leading zero, an integer beyond
64 bits, an exponent without digits, an unknown escape, a surrogate, or indentation that cannot be
taken off a block text because a character reaches over its end.
-/

namespace Refetch.Literal

/-! ## Numbers -/

/-- Is this a run of digits, with no zero in front of another digit? -/
def isPlainNat : List Char → Bool
  | [] => false
  | ['0'] => true
  | c :: rest => c.isDigit && c != '0' && rest.all Char.isDigit

/-- Splits off a leading minus. -/
def splitSign : List Char → Bool × List Char
  | '-' :: rest => (true, rest)
  | text => (false, text)

/-- The whole numbers that fit 64 bits. -/
def isInt64 (n : Int) : Bool := -0x8000000000000000 ≤ n && n < 0x8000000000000000

/-- Reads a whole number. -/
def int? (text : List Char) : Option Int :=
  let (negative, digits) := splitSign text
  if isPlainNat digits then
    let n : Int := if negative then -(Text.digitsValue digits) else Text.digitsValue digits
    if isInt64 n then some n else none
  else none

/-- Reads what follows the `e`: a sign and digits, or digits of which the first is one of
one to eight. -/
def exponent? : List Char → Option Int
  | '+' :: digits => if !digits.isEmpty && digits.all Char.isDigit then
      some (Text.digitsValue digits) else none
  | '-' :: digits => if !digits.isEmpty && digits.all Char.isDigit then
      some (-(Text.digitsValue digits)) else none
  | c :: rest => if '1' ≤ c && c ≤ '8' && rest.all Char.isDigit then
      some (Text.digitsValue (c :: rest)) else none
  | [] => none

/-- Reads a number that has a point or an exponent. -/
def float? (text : List Char) : Option Float := do
  let (negative, body) := splitSign text
  let isMark := fun c : Char => c == 'e' || c == 'E'
  let number := body.takeWhile (!isMark ·)
  let exponent ← match body.dropWhile (!isMark ·) with
    | [] => some 0
    | _ :: digits => exponent? digits
  let whole := number.takeWhile (· != '.')
  let places ← match number.dropWhile (· != '.') with
    | [] => some []
    | _ :: digits => if !digits.isEmpty && digits.all Char.isDigit then some digits else none
  if isPlainNat whole then
    let x := Decimal.nearestFloat (Text.digitsValue (whole ++ places)) (exponent - places.length)
    some (if negative then -x else x)
  else none

/-- Reads a number literal: one with a point or an exponent letter after its first character
is a float, any other a whole number. -/
def number? (text : List Char) : Option Token :=
  if (text.drop 1).any fun c => c == '.' || c == 'e' || c == 'E' then
    (float? text).map .float
  else
    (int? text).map .int

/-! ## Quoted texts -/

/-- The character that the four characters after `\u` name: four hexadecimal digits, or a
plus and three. A surrogate is no character. -/
def codePoint? (digits : List Char) : Option Char := do
  let n ← match digits with
    | '+' :: rest => Text.hexNumber? rest
    | _ => Text.hexNumber? digits
  if h : n.isValidChar then some (Char.ofNatAux n h) else none

/-- Resolves the escapes between two quotes. -/
def unescape? : List Char → Option (List Char)
  | [] => some []
  | '\\' :: 'u' :: a :: b :: c :: d :: rest => do
    (← codePoint? [a, b, c, d]) :: (← unescape? rest)
  | '\\' :: c :: rest => do
    let resolved ← match c with
      | '"' => some '"'
      | '\\' => some '\\'
      | '/' => some '/'
      | 'b' => some '\x10'
      | 'f' => some '\x0c'
      | 'n' => some '\n'
      | 'r' => some '\r'
      | 't' => some '\t'
      | _ => none
    resolved :: (← unescape? rest)
  | '\\' :: [] => none
  | c :: rest => (unescape? rest).map (c :: ·)

/-! ## Block texts -/

/-- Resolves the one escape of a block text: a backslash before three quotes. -/
def unescapeQuotes : List Char → List Char
  | '\\' :: '"' :: '"' :: '"' :: rest => '"' :: '"' :: '"' :: unescapeQuotes rest
  | c :: rest => c :: unescapeQuotes rest
  | [] => []

/-- The bytes of blank characters that a line starts with. -/
def indentOf (line : List Char) : Nat := Text.byteLength (line.takeWhile Text.isBlank)

/-- The indentation that all lines share: the least one among those that are not blank. -/
def commonIndent (lines : List (List Char)) : Nat :=
  ((lines.filter (!Text.isBlankLine ·)).map indentOf).min?.getD 0

/-- Takes a number of bytes off the front of a line. A line that has fewer is left alone, and one
in which a character reaches over the cut cannot be cut. -/
def outdent? (bytes : Nat) (line : List Char) : Option (List Char) :=
  if Text.byteLength line < bytes then some line else Text.fromByte? line bytes

/-- The lines of a block text, each with the bytes to take off its front: what all lines after
the first share, and nothing off the first. -/
def indentedLines : List (List Char) → List (Nat × List Char)
  | [] => []
  | first :: rest => (0, first) :: rest.map (commonIndent rest, ·)

/-- Drops the blank lines at both ends. -/
def trimBlankLines (lines : List (Nat × List Char)) : List (Nat × List Char) :=
  let kept := lines.dropWhile (Text.isBlankLine ·.2)
  (kept.reverse.dropWhile (Text.isBlankLine ·.2)).reverse

/-- What a block text means, from the characters between its triple quotes: blank lines at both
ends are dropped, and the indentation common to the lines after the first is taken off those that
are left. There is no meaning if one of these cannot be cut there. -/
def blockValue? (raw : List Char) : Option (List Char) := do
  let lines ← (trimBlankLines (indentedLines (Text.lines raw))).mapM fun (bytes, line) =>
    outdent? bytes line
  return List.intercalate ['\n'] (lines.map unescapeQuotes)

/-- A line is cut where a character starts, or where it ends. -/
theorem outdent?_eq_some_iff {bytes : Nat} {line cut : List Char} :
    outdent? bytes line = some cut ↔
      (Text.byteLength line < bytes ∧ line = cut) ∨
        ∃ front, line = front ++ cut ∧ Text.byteLength front = bytes := by
  rw [outdent?]
  split
  · rename_i hshort
    constructor
    · intro h
      exact Or.inl ⟨hshort, Option.some.inj h⟩
    · rintro (⟨-, rfl⟩ | ⟨front, rfl, hfront⟩)
      · rfl
      · rw [Text.byteLength_append] at hshort
        omega
  · rename_i hlong
    rw [Text.fromByte?_eq_some_iff]
    exact ⟨Or.inr, fun h => h.resolve_left fun h => hlong h.1⟩

end Refetch.Literal
