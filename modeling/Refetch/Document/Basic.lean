/-!
# Query documents

The syntax tree of an executable document: definitions (operations and fragments) over
selection sets, with the values, variable types and directives that hang off them. Every
node that a reader may want to point at carries the position where it was read; `Span`s
belong to selection sets, from the opening to the closing brace.
-/

namespace Refetch

/-! ## Positions -/

/-- A place in a text; lines and columns count from one. -/
structure Pos where
  /-- the line -/
  line : Nat
  /-- the column within the line -/
  column : Nat
  deriving DecidableEq, Repr, Inhabited

/-- A stretch of text, from the start of its first token to the start of its last. -/
structure Span where
  /-- where the first token starts -/
  start : Pos
  /-- where the last token starts -/
  stop : Pos
  deriving DecidableEq, Repr, Inhabited

namespace Pos

/-- The start of a text. -/
def first : Pos := ⟨1, 1⟩

/-- The place `n` columns further on the same line. -/
def right (pos : Pos) (n : Nat) : Pos := ⟨pos.line, pos.column + n⟩

/-- The start of the next line. -/
def nextLine (pos : Pos) : Pos := ⟨pos.line + 1, 1⟩

/-- The place as `line:column`. -/
def print (pos : Pos) : String := toString pos.line ++ ":" ++ toString pos.column

end Pos

/-! ## Values and types -/

/-- An argument, a default or a part of one. Objects keep their members sorted by key, one
member a key. -/
inductive Value where
  /-- a reference to a variable, by its name -/
  | var (name : String)
  /-- a whole number -/
  | int (n : Int)
  /-- a number written with a point or an exponent -/
  | float (x : Float)
  /-- a text, whichever way it was quoted -/
  | string (text : String)
  /-- `true` or `false` -/
  | boolean (b : Bool)
  /-- the absent value -/
  | null
  /-- any other bare name -/
  | enum (name : String)
  /-- a list of values -/
  | list (items : List Value)
  /-- an object's members -/
  | object (members : List (String × Value))
  deriving Inhabited

/-- The type a variable is declared with. -/
inductive TypeRef where
  /-- a type by its name -/
  | named (name : String)
  /-- a list of the inner type -/
  | list (inner : TypeRef)
  /-- the inner type without its null -/
  | nonNull (inner : TypeRef)
  deriving DecidableEq, Repr, Inhabited

/-- Arguments in the order written; a name may occur more than once. -/
abbrev Arguments := List (String × Value)

/-- A directive, such as `@include(if: $wide)`. -/
structure Directive where
  /-- where its `@` stands -/
  pos : Pos
  /-- its name -/
  name : String
  /-- its arguments -/
  args : Arguments
  deriving Inhabited

/-- The declaration of a variable. -/
structure VariableDef where
  /-- where its `$` stands -/
  pos : Pos
  /-- its name, without the `$` -/
  name : String
  /-- the type it is declared with -/
  type : TypeRef
  /-- the value it takes when none is given -/
  default? : Option Value
  deriving Inhabited

/-! ## Selections -/

/-- What a field says before its selections. -/
structure FieldHead where
  /-- where the field starts: at its alias if it has one -/
  pos : Pos
  /-- the name its answer goes by, if that is another one -/
  alias? : Option String
  /-- its name -/
  name : String
  /-- its arguments -/
  args : Arguments
  /-- its directives -/
  dirs : List Directive
  deriving Inhabited

/-- One entry of a selection set. -/
inductive Selection where
  /-- a field and the selections on it, none for a leaf -/
  | field (head : FieldHead) (span : Span) (items : List Selection)
  /-- the inclusion of a fragment by its name -/
  | spread (pos : Pos) (name : String) (dirs : List Directive)
  /-- a fragment written in place, perhaps on another type -/
  | inline (pos : Pos) (on? : Option String) (dirs : List Directive) (span : Span)
      (items : List Selection)
  deriving Inhabited

/-- A braced list of selections. -/
structure SelectionSet where
  /-- from the opening brace to the closing one -/
  span : Span
  /-- the selections, in order -/
  items : List Selection
  deriving Inhabited

/-! ## Definitions -/

/-- The kinds of operation that a keyword names. -/
inductive OperationKind where
  /-- a read -/
  | query
  /-- a write -/
  | mutation
  /-- a standing read -/
  | subscription
  deriving DecidableEq, Repr, Inhabited

/-- What a definition says before its selections. -/
inductive Head where
  /-- nothing: a query written as its braces only -/
  | bare
  /-- an operation with its keyword -/
  | operation (kind : OperationKind) (pos : Pos) (name? : Option String)
      (vars : List VariableDef) (dirs : List Directive)
  /-- a named fragment on a type -/
  | fragment (pos : Pos) (name : String) (on : String) (dirs : List Directive)
  deriving Inhabited

/-- An operation or a fragment. -/
structure Definition where
  /-- what stands before the selections -/
  head : Head
  /-- the selections -/
  body : SelectionSet
  deriving Inhabited

/-- A document: its definitions in order. -/
structure Document where
  /-- the definitions -/
  definitions : List Definition
  deriving Inhabited

/-! ## Names and labels -/

/-- What a selection is called: a field's name, a spread's fragment name, or `...` for a
fragment written in place. -/
def Selection.label : Selection → String
  | .field head _ _ => head.name
  | .spread _ name _ => name
  | .inline .. => "..."

end Refetch
