import Refetch.Members
import Refetch.Document.Reader
import Refetch.Document.Lexer

/-!
# The grammar of documents

One reader for each rule, and `Document.parse?` for a whole text. Keywords are not reserved:
the only name with a meaning of its own is `on` after an ellipsis, which always starts a type
condition.

Brackets nest at most fifty deep. Every opening bracket takes one from the depth that its
content may use, and at depth zero an opening bracket is refused. This bound is also what
the recursion descends on.
-/

namespace Refetch

/-- The value that a bare name is. -/
def Value.ofName (text : String) : Value :=
  if text = "true" then .boolean true
  else if text = "false" then .boolean false
  else if text = "null" then .null
  else .enum text

namespace Grammar

open Reader

/-- How deep the brackets of a definition may nest. -/
def nestingLimit : Nat := 50

/-! ## Values and types -/

/-- The variable whose name follows. -/
def variableName : Reader Value := do
  return .var (← name)

/-- A value without brackets. -/
def scalar (constant : Bool) : Reader Value
  | ⟨_, .name text⟩ :: rest => .ok (.ofName text, rest)
  | ⟨_, .int n⟩ :: rest => .ok (.int n, rest)
  | ⟨_, .float x⟩ :: rest => .ok (.float x, rest)
  | ⟨_, .string text⟩ :: rest => .ok (.string text, rest)
  | ⟨pos, .punct .dollar⟩ :: rest =>
    if constant then .error (⟨pos, .punct .dollar⟩ :: rest)
    else variableName rest
  | input => .error input

/-- A name, a colon and a value. -/
def member (value : Reader Value) : Reader (String × Value) := do
  let key ← name
  let _ ← punct .colon
  let v ← value
  return (key, v)

/-- A value; a constant has no variables at any depth. -/
def value (constant : Bool) : Nat → Reader Value
  | 0 => scalar constant
  | depth + 1 => do
    if ← sees .bracketOpen then
      return .list (← between .bracketOpen .bracketClose (value constant depth))
    else if ← sees .braceOpen then
      let members ← between .braceOpen .braceClose (member (value constant depth))
      return .object (sortMembers members)
    else
      scalar constant

/-- Marks a type as without null if a bang follows. -/
def withBang (type : TypeRef) : Reader TypeRef := do
  if ← sees .bang then
    let _ ← punct .bang
    return .nonNull type
  else
    return type

/-- The type of a variable. -/
def type : Nat → Reader TypeRef
  | 0 => do withBang (.named (← name))
  | depth + 1 => do
    if ← sees .bracketOpen then
      let _ ← punct .bracketOpen
      let inner ← type depth
      let _ ← punct .bracketClose
      withBang (.list inner)
    else
      withBang (.named (← name))

/-! ## Arguments, directives and variables -/

/-- An optional list in parentheses, one item or more. -/
def parenthesized {α : Type} (item : Nat → Reader α) (depth : Nat) : Reader (List α) := do
  if ← sees .parenOpen then
    match depth with
    | 0 => fail
    | depth + 1 => return (← someBetween .parenOpen .parenClose (item depth)).2
  else
    return []

/-- The arguments of a field or a directive. -/
def arguments : Nat → Reader Arguments := parenthesized fun depth => member (value false depth)

/-- A directive. -/
def directive (depth : Nat) : Reader Directive := do
  let pos ← punct .atSign
  let name ← name
  let args ← arguments depth
  return ⟨pos, name, args⟩

/-- The directives of a node. -/
def directives (depth : Nat) : Reader (List Directive) :=
  whileSees .atSign (directive depth)

/-- The declaration of a variable. -/
def variableDef (depth : Nat) : Reader VariableDef := do
  let pos ← punct .dollar
  let name ← name
  let _ ← punct .colon
  let type ← type depth
  if ← sees .equals then
    let _ ← punct .equals
    let default ← value true depth
    return ⟨pos, name, type, some default⟩
  else
    return ⟨pos, name, type, none⟩

/-! ## Selections -/

/-- A field, given how to read its selections. Without any its span is its own place. -/
def field (depth : Nat) (selections : Reader SelectionSet) : Reader Selection := do
  let pos ← here
  let first ← name
  let (alias?, name) ← if ← sees .colon then do
      let _ ← punct .colon
      let name ← name
      pure (some first, name)
    else
      pure (none, first)
  let args ← arguments depth
  let dirs ← directives depth
  if ← sees .braceOpen then
    let set ← selections
    return .field ⟨pos, alias?, name, args, dirs⟩ set.span set.items
  else
    return .field ⟨pos, alias?, name, args, dirs⟩ ⟨pos, pos⟩ []

/-- What follows an ellipsis: a fragment in place if it starts with `on` or with no name, a
spread otherwise. Its place is where it starts after the ellipsis. -/
def afterEllipsis (depth : Nat) (selections : Reader SelectionSet) : Reader Selection := do
  let pos ← here
  match ← name? with
  | some name =>
    if name = "on" then
      let condition ← Reader.name
      let dirs ← directives depth
      let set ← selections
      return .inline pos (some condition) dirs set.span set.items
    else
      return .spread pos name (← directives depth)
  | none =>
    let dirs ← directives depth
    let set ← selections
    return .inline pos none dirs set.span set.items

/-- A selection, given how to read a selection set. -/
def selection (depth : Nat) (selections : Reader SelectionSet) : Reader Selection := do
  if ← sees .ellipsis then
    let _ ← punct .ellipsis
    afterEllipsis depth selections
  else
    field depth selections

/-- A selection set. -/
def selectionSet : Nat → Reader SelectionSet
  | 0 => fail
  | depth + 1 => do
    let (span, items) ← someBetween .braceOpen .braceClose
      (selection depth (selectionSet depth))
    return ⟨span, items⟩

/-! ## Definitions -/

/-- The kind of operation that a keyword starts. -/
def operationKind? : String → Option OperationKind
  | "query" => some .query
  | "mutation" => some .mutation
  | "subscription" => some .subscription
  | _ => none

/-- The rest of an operation, after its keyword. -/
def operation (kind : OperationKind) (pos : Pos) : Reader Definition := do
  let name? ← name?
  let vars ← parenthesized variableDef nestingLimit
  let dirs ← directives nestingLimit
  let body ← selectionSet nestingLimit
  return ⟨.operation kind pos name? vars dirs, body⟩

/-- The rest of a fragment, after its keyword. -/
def fragment (pos : Pos) : Reader Definition := do
  let name ← name
  keyword "on"
  let condition ← Reader.name
  let dirs ← directives nestingLimit
  let body ← selectionSet nestingLimit
  return ⟨.fragment pos name condition dirs, body⟩

/-- A query written as its braces only. -/
def bareOperation : Reader Definition := do
  return ⟨.bare, ← selectionSet nestingLimit⟩

/-- A definition. -/
def definition : Reader Definition
  | ⟨pos, .name text⟩ :: rest =>
    match operationKind? text with
    | some kind => operation kind pos rest
    | none =>
      if text = "fragment" then fragment pos rest else .error (⟨pos, .name text⟩ :: rest)
  | input => bareOperation input

/-- A whole document: one definition or more. -/
def document : Reader Document := do
  let first ← definition
  let rest ← toEnd definition
  return ⟨first :: rest⟩

end Grammar

/-! ## Texts -/

/-- Why a text is no document. -/
inductive ParseError where
  /-- the lexeme that starts here cannot continue the text -/
  | refused (pos : Pos)
  /-- the reader breaks down over the block text that starts here, for it cuts the lines of that
  text without asking where their characters start -/
  | crash (pos : Pos)
  deriving DecidableEq, Repr

namespace ParseError

/-- The start of the lexeme that is to blame. -/
def pos : ParseError → Pos
  | refused pos => pos
  | crash pos => pos

/-- Did the reader break down? -/
def isCrash : ParseError → Bool
  | refused _ => false
  | crash _ => true

/-- The error in words. -/
def message (e : ParseError) : String := "query parse error: Parse error at " ++ e.pos.print

end ParseError

/-- May a quoted text come next, after these lexemes? -/
def Grammar.takesText (lexemes : List Lexeme) : Bool :=
  match document (lexemes ++ [⟨.first, .string ""⟩]) with
  | .error [] => true
  | _ => false

namespace Document

/-- Reads a document from the lexemes of a text. The reader looks into a block text only when one
may come next, and only then can it break down over one. -/
def ofScan (scan : Scan) : Except ParseError Document :=
  match Grammar.document scan.lexemes with
  | .ok (document, _) => if scan.complete then .ok document else .error (.refused scan.stop)
  | .error [] =>
    if scan.fault? = some .ragged && Grammar.takesText scan.lexemes then .error (.crash scan.stop)
    else .error (.refused scan.stop)
  | .error (lexeme :: _) => .error (.refused lexeme.pos)

/-- Reads a document from the characters of a text. -/
def ofChars (text : List Char) : Except ParseError Document := ofScan (.ofChars text)

/-- Reads a document from a text. -/
def parse (text : String) : Except ParseError Document := ofChars text.toList

end Document

end Refetch
