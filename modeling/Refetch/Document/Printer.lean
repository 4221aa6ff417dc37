import Refetch.Decimal.Layout
import Refetch.Text.Digits
import Refetch.Text.Lines
import Refetch.Document.Basic

/-!
# Printing documents

A document as text, two spaces a level, an empty line between definitions. The `indent` that
most printers take is that of the line they are on, in spaces; it matters to what spans
lines: blocks of selections, and texts printed as block texts.
-/

namespace Refetch

/-! ## Quoted texts -/

/-- Documents write floats without an exponent and whole ones without a point, and take the
larger of two equally near decimals. -/
def documentLayout : Decimal.Layout := ⟨fun _ => true, false, .up⟩

/-- Can the character stand in a text as it is? -/
def isPlainChar (c : Char) : Bool := ' ' ≤ c && c.toNat ≤ 0xffff

/-- A character as it stands between quotes. What has no escape of its own and is not plain
is written by its code in decimal. -/
def escapeChar (c : Char) : List Char :=
  if c = '\r' then ['\\', 'r']
  else if c = '\n' then ['\\', 'n']
  else if c = '\t' then ['\\', 't']
  else if c = '"' then ['\\', '"']
  else if c = '\\' then ['\\', '\\']
  else if isPlainChar c then [c]
  else '\\' :: 'u' :: Text.fourDigits 10 c.toNat

/-- Puts a backslash before three quotes in a row. -/
def escapeQuotes : List Char → List Char
  | '"' :: '"' :: '"' :: rest => '\\' :: '"' :: '"' :: '"' :: escapeQuotes rest
  | c :: rest => c :: escapeQuotes rest
  | [] => []

/-- A text is printed as a block text if it spans lines and every character can stand there
as it is. -/
def printsAsBlock (text : List Char) : Bool :=
  text.contains '\n' &&
    text.all fun c => c = '\n' || c = '\r' || c = '\t' || isPlainChar c

/-- So many spaces. -/
def spaces (n : Nat) : List Char := .replicate n ' '

/-- A line of a block text; blank lines are left empty. -/
def printBlockLine (indent : Nat) (line : List Char) : List Char :=
  (if Text.isBlankLine line then [] else spaces (indent + 2) ++ escapeQuotes line) ++ ['\n']

/-- A text in quotes, or as a block text. -/
def printString (indent : Nat) (text : String) : String :=
  let chars := text.toList
  let quotes := ['"', '"', '"']
  .ofList <|
    if printsAsBlock chars then
      quotes ++ '\n' :: (Text.lines chars).flatMap (printBlockLine indent) ++
        spaces indent ++ quotes
    else
      '"' :: chars.flatMap escapeChar ++ ['"']

/-! ## Values and types -/

mutual

/-- A value as text. -/
def Value.print (indent : Nat) : Value → String
  | .var name => "$" ++ name
  | .int n => toString n
  | .float x => documentLayout.write x
  | .string text => printString indent text
  | .boolean true => "true"
  | .boolean false => "false"
  | .null => "null"
  | .enum name => name
  | .list items => "[" ++ ", ".intercalate (printItems indent items) ++ "]"
  | .object members => "\x7b" ++ ", ".intercalate (printMembers indent members) ++ "\x7d"

/-- The items of a list as texts. -/
def printItems (indent : Nat) : List Value → List String
  | [] => []
  | value :: rest => value.print indent :: printItems indent rest

/-- The members of an object as texts. -/
def printMembers (indent : Nat) : List (String × Value) → List String
  | [] => []
  | (key, value) :: rest => (key ++ ": " ++ value.print indent) :: printMembers indent rest

end

/-- A type as text. -/
def TypeRef.print : TypeRef → String
  | .named name => name
  | .list inner => "[" ++ inner.print ++ "]"
  | .nonNull inner => inner.print ++ "!"

/-- Arguments in parentheses; nothing for none. -/
def printArguments (indent : Nat) : Arguments → String
  | [] => ""
  | args => "(" ++ ", ".intercalate (printMembers indent args) ++ ")"

/-- A directive with the space before it. -/
def Directive.print (indent : Nat) (dir : Directive) : String :=
  " @" ++ dir.name ++ printArguments indent dir.args

/-- Directives, each with the space before it. -/
def printDirectives (indent : Nat) (dirs : List Directive) : String :=
  String.join (dirs.map (Directive.print indent))

/-! ## Selections -/

/-- The white space that a line starts with. -/
def margin (indent : Nat) : String := .ofList (spaces indent)

/-- Lines in braces, with the line end after them. -/
def braced (indent : Nat) (lines : String) : String :=
  "\x7b\n" ++ lines ++ margin indent ++ "\x7d\n"

/-- What a field says before its selections. -/
def FieldHead.print (indent : Nat) (head : FieldHead) : String :=
  let called := match head.alias? with
    | some name => name ++ ": "
    | none => ""
  called ++ head.name ++ printArguments indent head.args ++ printDirectives indent head.dirs

/-- The type condition of a fragment, with the space before it. -/
def printCondition : Option String → String
  | some name => " on " ++ name
  | none => ""

mutual

/-- A selection with its line end. -/
def Selection.print (indent : Nat) : Selection → String
  | .field head _ [] => margin indent ++ head.print indent ++ "\n"
  | .field head _ (item :: rest) =>
    let lines := item.print (indent + 2) ++ printSelections (indent + 2) rest
    margin indent ++ head.print indent ++ " " ++ braced indent lines
  | .spread _ name dirs => margin indent ++ "..." ++ name ++ printDirectives indent dirs ++ "\n"
  | .inline _ on? dirs _ items =>
    margin indent ++ "..." ++ printCondition on? ++ printDirectives indent dirs ++ " " ++
      braced indent (printSelections (indent + 2) items)

/-- Selections one after the other. -/
def printSelections (indent : Nat) : List Selection → String
  | [] => ""
  | item :: rest => item.print indent ++ printSelections indent rest

end

/-! ## Definitions -/

/-- A variable's declaration. -/
def VariableDef.print (var : VariableDef) : String :=
  let default := match var.default? with
    | some value => " = " ++ value.print 0
    | none => ""
  "$" ++ var.name ++ ": " ++ var.type.print ++ default

/-- The keyword of an operation. -/
def OperationKind.keyword : OperationKind → String
  | .query => "query"
  | .mutation => "mutation"
  | .subscription => "subscription"

/-- The declarations of an operation's variables. A subscription puts nothing between them,
and only a named one has them at all. -/
def printVariables (kind : OperationKind) (named : Bool) (vars : List VariableDef) : String :=
  let separator := if kind = .subscription then "" else ", "
  if vars.isEmpty || (kind = .subscription && !named) then ""
  else "(" ++ separator.intercalate (vars.map VariableDef.print) ++ ")"

/-- What a definition says before its selections, with the space after it. -/
def Head.print : Head → String
  | .bare => ""
  | .operation kind _ name? vars dirs =>
    let named := match name? with
      | some name => " " ++ name
      | none => ""
    kind.keyword ++ named ++ printVariables kind name?.isSome vars ++
      printDirectives 0 dirs ++ " "
  | .fragment _ name on dirs =>
    "fragment " ++ name ++ " on " ++ on ++ printDirectives 0 dirs ++ " "

/-- A definition as text. -/
def Definition.print (definition : Definition) : String :=
  definition.head.print ++ braced 0 (printSelections 2 definition.body.items)

/-- A document as text. -/
def Document.print (document : Document) : String :=
  "\n".intercalate (document.definitions.map Definition.print)

end Refetch
