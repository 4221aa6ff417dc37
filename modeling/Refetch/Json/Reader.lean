import Refetch.Text.Digits
import Refetch.Text.Quoted
import Refetch.Decimal.Double
import Refetch.Json.Basic

/-!
# Reading JSON

Strict readers of JSON values over the characters of a text. A reader may also be `lenient`:
it then accepts what is well formed but has no value (a lone surrogate, a number beyond the
range of doubles), which is how members that nobody asks for are skipped.

The recursion runs on a bound that grows with the length of the text (`JsonReader.run`), apart
from the depth to which arrays and objects may nest, which is part of the format.
-/

namespace Refetch

namespace Json

/-! ## Errors -/

/-- What a value turned out to be. -/
inductive Found where
  /-- a value without parts -/
  | scalar (value : Json)
  /-- an array -/
  | array
  /-- an object -/
  | object

/-- What is found, in words. -/
def Found.describe : Found → String
  | .scalar (.boolean b) => "boolean `" ++ toString b ++ "`"
  | .scalar (.int n) => "integer `" ++ toString n ++ "`"
  | .scalar (.float x) => "floating point `" ++ layout.write x ++ "`"
  | .scalar (.string text) => "string " ++ Text.quote text
  | .scalar _ => "null"
  | .array => "sequence"
  | .object => "map"

/-- Why a text cannot be read as what it should be. -/
inductive ReadError where
  /-- it is no JSON text -/
  | malformed
  /-- a value of another kind than the expected one -/
  | wrongType (found : Found) (expected : String)
  /-- a member that must be there is missing -/
  | missingField (name : String)
  /-- a member is given twice -/
  | duplicateField (name : String)
  /-- an array without all its elements -/
  | tooShort (length : Nat) (expected : String)

/-- What is wrong with the value of a text, in words; of a text without a value there is
nothing to say. -/
def ReadError.message? : ReadError → Option String
  | .malformed => none
  | .wrongType found expected => "invalid type: " ++ found.describe ++ ", expected " ++ expected
  | .missingField name => "missing field `" ++ name ++ "`"
  | .duplicateField name => "duplicate field `" ++ name ++ "`"
  | .tooShort length expected =>
    "invalid length " ++ toString length ++ ", expected " ++ expected

end Json

/-! ## Readers -/

/-- Takes characters from the front of a text. -/
abbrev JsonReader := StateT (List Char) (Except Json.ReadError)

namespace JsonReader

/-- Refuse the text. -/
def malformed {α : Type} : JsonReader α := throw .malformed

/-- The characters that may stand between the words of a text. -/
def isSpace (c : Char) : Bool := c = ' ' || c = '\t' || c = '\n' || c = '\r'

/-- Skips white space. -/
def skipSpace : JsonReader Unit := modify (·.dropWhile isSpace)

/-- The next character, left in place. -/
def peek? : JsonReader (Option Char) := return (← get).head?

/-- Takes the next character. -/
def take : JsonReader Char := do
  match ← get with
  | [] => malformed
  | c :: rest =>
    set rest
    return c

/-- Takes one particular character. -/
def expect (c : Char) : JsonReader Unit := do
  if (← take) ≠ c then malformed

/-- Takes a character if it is the next one. -/
def takeIf (c : Char) : JsonReader Bool := do
  if (← peek?) = some c then
    let _ ← take
    return true
  else
    return false

/-- Takes one particular word. -/
def word (text : String) : JsonReader Unit := text.toList.forM expect

/-- Takes the digits that come next. -/
def digits : JsonReader (List Char) := do
  let text ← get
  set (text.dropWhile Char.isDigit)
  return text.takeWhile Char.isDigit

/-- Takes digits, one at least. -/
def someDigits : JsonReader (List Char) := do
  let found ← digits
  if found.isEmpty then malformed
  return found

/-! ## Numbers -/

/-- A whole number, if it has 64 bits. A negative zero is none: it keeps its sign as a
double. -/
def whole? (negative : Bool) (n : Nat) : Option Json :=
  if negative then
    if n ≠ 0 && n ≤ 0x8000000000000000 then some (.int (-n)) else none
  else if n < 0x10000000000000000 then some (.int n) else none

/-- A double, if it is finite. -/
def double (lenient : Bool) (negative : Bool) (mantissa : Nat) (exponent : Int) :
    JsonReader Json :=
  let x := Decimal.nearestFloat mantissa exponent
  if x.isFinite || lenient then return .float (if negative then -x else x) else malformed

/-- Takes the exponent of a number, nothing being zero. -/
def exponent : JsonReader Int := do
  let small ← takeIf 'e'
  let marked ← if small then pure true else takeIf 'E'
  if marked then
    let negative ← takeIf '-'
    let _ ← if negative then pure true else takeIf '+'
    let n := Text.digitsValue (← someDigits)
    return if negative then -n else n
  else
    return 0

/-- Takes a number. -/
def number (lenient : Bool) : JsonReader Json := do
  let negative ← takeIf '-'
  let whole ← someDigits
  if whole.head? = some '0' && whole.length ≠ 1 then malformed
  let places ← if ← takeIf '.' then someDigits else pure []
  let next ← peek?
  if places.isEmpty && next ≠ some 'e' && next ≠ some 'E' then
    let n := Text.digitsValue whole
    match whole? negative n with
    | some value => return value
    | none => double lenient negative n 0
  else
    let power ← exponent
    double lenient negative (Text.digitsValue (whole ++ places)) (power - places.length)

/-! ## Texts -/

/-- Takes four hexadecimal digits. -/
def fourHex : JsonReader Nat := do
  let a ← take
  let b ← take
  let c ← take
  let d ← take
  match Text.hexNumber? [a, b, c, d] with
  | some n => return n
  | none => malformed

/-- Is this the code of a first half of a character? -/
def isHighSurrogate (n : Nat) : Bool := 0xd800 ≤ n && n < 0xdc00

/-- Is this the code of a second half of a character? -/
def isLowSurrogate (n : Nat) : Bool := 0xdc00 ≤ n && n < 0xe000

/-- Takes the rest of an escape that names a code point. Two halves make one character; a
half alone has no value. -/
def codePoint (lenient : Bool) : JsonReader Char := do
  let n ← fourHex
  if lenient then return Char.ofNat n
  else if isLowSurrogate n then malformed
  else if isHighSurrogate n then
    expect '\\'
    expect 'u'
    let low ← fourHex
    if isLowSurrogate low then
      return Char.ofNat (0x10000 + 0x400 * (n - 0xd800) + (low - 0xdc00))
    else
      malformed
  else return Char.ofNat n

/-- Takes the rest of an escape. -/
def escape (lenient : Bool) : JsonReader Char := do
  match ← take with
  | '"' => return '"'
  | '\\' => return '\\'
  | '/' => return '/'
  | 'b' => return '\x08'
  | 'f' => return '\x0c'
  | 'n' => return '\n'
  | 'r' => return '\r'
  | 't' => return '\t'
  | 'u' => codePoint lenient
  | _ => malformed

/-- Takes the rest of a text, `read` being what came before, in reverse. -/
def stringRest (lenient : Bool) : Nat → List Char → JsonReader String
  | 0, _ => malformed
  | fuel + 1, read => do
    let c ← take
    if c = '"' then return .ofList read.reverse
    else if c = '\\' then
      let resolved ← escape lenient
      stringRest lenient fuel (resolved :: read)
    else if c < ' ' then malformed
    else stringRest lenient fuel (c :: read)

/-- Takes a quoted text. -/
def string (lenient : Bool) (fuel : Nat) : JsonReader String := do
  expect '"'
  stringRest lenient fuel []

/-! ## Values -/

/-- Is there another element before the closing character? That character is taken if not,
the comma before the element if so. -/
def another (close : Char) (first : Bool) : JsonReader Bool := do
  skipSpace
  if ← takeIf close then
    return false
  else
    unless first do
      expect ','
      skipSpace
      if (← peek?) = some close then malformed
    return true

/-- Takes the key of a member. -/
def key (fuel : Nat) : JsonReader String := do
  skipSpace
  string false fuel

/-- Takes the colon after a key. -/
def colon : JsonReader Unit := do
  skipSpace
  expect ':'

/-- Takes a value without parts. -/
def scalar (lenient : Bool) (fuel : Nat) : JsonReader Json := do
  match ← peek? with
  | some 'n' =>
    word "null"
    return .null
  | some 't' =>
    word "true"
    return .boolean true
  | some 'f' =>
    word "false"
    return .boolean false
  | some '"' => return .string (← string lenient fuel)
  | _ => number lenient

mutual

/-- Takes a value in which arrays and objects nest at most `depth` deep. -/
def value (lenient : Bool) : (fuel depth : Nat) → JsonReader Json
  | 0, _ => malformed
  | fuel + 1, depth => do
    skipSpace
    match ← peek?, depth with
    | some '[', 0 => malformed
    | some '{', 0 => malformed
    | some '[', depth + 1 =>
      expect '['
      return .array (← items lenient fuel depth true)
    | some '{', depth + 1 =>
      expect '{'
      return .object (sortMembers (← members lenient fuel depth true))
    | _, _ => scalar lenient fuel

/-- Takes the items of an array and its closing bracket. -/
def items (lenient : Bool) : (fuel depth : Nat) → (first : Bool) → JsonReader (List Json)
  | 0, _, _ => malformed
  | fuel + 1, depth, first => do
    if ← another ']' first then
      let item ← value lenient fuel depth
      return item :: (← items lenient fuel depth false)
    else
      return []

/-- Takes the members of an object and its closing brace. -/
def members (lenient : Bool) :
    (fuel depth : Nat) → (first : Bool) → JsonReader (List (String × Json))
  | 0, _, _ => malformed
  | fuel + 1, depth, first => do
    if ← another '}' first then
      skipSpace
      let name ← string lenient fuel
      colon
      let item ← value lenient fuel depth
      return (name, item) :: (← members lenient fuel depth false)
    else
      return []

end

/-- Skips a value, to any depth. -/
def skipValue (fuel : Nat) : JsonReader Unit := do
  let _ ← value true fuel fuel

/-- The value is not of the expected kind. Of arrays and objects only the start is read. -/
def wrongType {α : Type} (expected : String) (fuel : Nat) : JsonReader α := do
  match ← peek? with
  | some '[' => throw (.wrongType .array expected)
  | some '{' => throw (.wrongType .object expected)
  | _ =>
    let found ← scalar false fuel
    throw (.wrongType (.scalar found) expected)

/-- Reads a whole text. The bound it hands to the reader is enough for every text of that
length: of two steps one takes a character. -/
def run {α : Type} (reader : Nat → JsonReader α) (text : String) : Except Json.ReadError α := do
  let chars := text.toList
  let (x, rest) ← reader (2 * chars.length + 2) chars
  if (rest.dropWhile isSpace).isEmpty then .ok x else .error .malformed

/-- How deep arrays and objects may nest. -/
def nestingLimit : Nat := 127

end JsonReader

/-- Reads a value from a text. -/
def Json.parse (text : String) : Except Json.ReadError Json :=
  JsonReader.run (fun fuel => JsonReader.value false fuel JsonReader.nestingLimit) text

end Refetch
