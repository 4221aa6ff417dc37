import Refetch.Decimal.Layout
import Refetch.Members
import Refetch.Text.Digits

/-!
# JSON values

The values of JSON texts and their compact printed form. Objects keep their members sorted by
key, one member a key. Whole numbers of 64 bits, signed or not, are kept apart from all other
numbers, which are doubles.
-/

namespace Refetch

/-- A JSON value. -/
inductive Json where
  /-- the absent value -/
  | null
  /-- `true` or `false` -/
  | boolean (b : Bool)
  /-- a whole number -/
  | int (n : Int)
  /-- any other number -/
  | float (x : Float)
  /-- a text -/
  | string (text : String)
  /-- a list of values -/
  | array (items : List Json)
  /-- an object's members -/
  | object (members : List (String × Json))
  deriving Inhabited

namespace Json

/-- Numbers are written positionally for exponents from -5 to 15, whole ones with a `.0`, and
take the decimal with the even last digit of two equally near ones. -/
def layout : Decimal.Layout := ⟨fun exponent => -5 ≤ exponent && exponent ≤ 15, true, .even⟩

/-- A character as it stands between quotes. -/
def escapeChar (c : Char) : List Char :=
  if c = '"' then ['\\', '"']
  else if c = '\\' then ['\\', '\\']
  else if c = '\x08' then ['\\', 'b']
  else if c = '\t' then ['\\', 't']
  else if c = '\n' then ['\\', 'n']
  else if c = '\x0c' then ['\\', 'f']
  else if c = '\r' then ['\\', 'r']
  else if c < ' ' then '\\' :: 'u' :: Text.fourDigits 16 c.toNat
  else [c]

/-- A text in quotes. -/
def printString (text : String) : String :=
  .ofList ('"' :: text.toList.flatMap escapeChar ++ ['"'])

mutual

/-- A value as text, without white space. -/
def print : Json → String
  | .null => "null"
  | .boolean true => "true"
  | .boolean false => "false"
  | .int n => toString n
  | .float x => layout.write x
  | .string text => printString text
  | .array items => "[" ++ ",".intercalate (printItems items) ++ "]"
  | .object members => "\x7b" ++ ",".intercalate (printMembers members) ++ "\x7d"

/-- The items of an array as texts. -/
def printItems : List Json → List String
  | [] => []
  | value :: rest => value.print :: printItems rest

/-- The members of an object as texts. -/
def printMembers : List (String × Json) → List String
  | [] => []
  | (key, value) :: rest => (printString key ++ ":" ++ value.print) :: printMembers rest

end

end Json

end Refetch
