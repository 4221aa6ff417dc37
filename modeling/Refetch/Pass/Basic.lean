import Refetch.Document.Basic

/-!
# Passes over a document

A `Pass` rebuilds a document from two decisions: which selections stay (`keep`) and what
names become (`rename`). Both are told the path of the node that decides: the kinds of the
nodes from the document down to it. Nothing else of a document is offered to a pass; aliases,
arguments, directives, defaults, positions and spans are copied.

The decisions are taken in some monad, in a fixed order: definition by definition, the name,
then the variables or the type condition, then the selections, each before what is below it.
A selection that does not stay is not entered. A pass in `Id` is a function on documents
(`Pass.run`).
-/

namespace Refetch

/-- The kinds of node on a path. Variable types and type conditions are both named types once
their wrappers are off. -/
inductive NodeKind where
  /-- the document itself -/
  | document
  /-- a field -/
  | field
  /-- a fragment's definition -/
  | fragmentDefinition
  /-- the inclusion of a fragment -/
  | fragmentSpread
  /-- a fragment in place -/
  | inlineFragment
  /-- a list around a type -/
  | listType
  /-- a type by its name -/
  | namedType
  /-- a type without its null -/
  | nonNullType
  /-- an operation -/
  | operationDefinition
  /-- a selection set -/
  | selectionSet
  /-- a variable's declaration -/
  | variableDefinition
  deriving DecidableEq, Repr, Inhabited

/-- The nodes from one up to the document, nearest first. -/
abbrev Path := List NodeKind

/-- The path of a definition with this head. -/
def Head.path : Head → Path
  | .fragment .. => [.fragmentDefinition, .document]
  | _ => [.operationDefinition, .document]

/-- The two decisions that rebuild a document. -/
@[ext] structure Pass (m : Type → Type) where
  /-- does a selection stay? The path ends with the selection set that holds it -/
  keep : Path → Selection → m Bool
  /-- what does a name become? The path ends with the node that the name belongs to -/
  rename : Path → String → m String

namespace Pass

variable {m : Type → Type} [Monad m]

/-- The pass that keeps everything as it is. -/
def identity : Pass m := ⟨fun _ _ => pure true, fun _ name => pure name⟩

/-- Rebuilds a type; its name is that of the innermost named type. -/
def type (p : Pass m) (path : Path) : TypeRef → m TypeRef
  | .named name => .named <$> p.rename (.namedType :: path) name
  | .list inner => .list <$> p.type (.listType :: path) inner
  | .nonNull inner => .nonNull <$> p.type (.nonNullType :: path) inner

/-- Rebuilds a type condition. -/
def condition (p : Pass m) (path : Path) (name : String) : m String :=
  p.rename (.namedType :: path) name

/-- Rebuilds a type condition that may be missing. -/
def condition? (p : Pass m) (path : Path) : Option String → m (Option String)
  | none => pure none
  | some name => some <$> p.condition path name

mutual

/-- Rebuilds a selection that stays. -/
def selection (p : Pass m) (path : Path) : Selection → m Selection
  | .field head span items => do
    let name ← p.rename (.field :: path) head.name
    let items ← p.selections (.selectionSet :: .field :: path) items
    return .field { head with name } span items
  | .spread pos name dirs => do
    let name ← p.rename (.fragmentSpread :: path) name
    return .spread pos name dirs
  | .inline pos on? dirs span items => do
    let on? ← p.condition? (.inlineFragment :: path) on?
    let items ← p.selections (.selectionSet :: .inlineFragment :: path) items
    return .inline pos on? dirs span items

/-- Rebuilds the selections of a set. -/
def selections (p : Pass m) (path : Path) : List Selection → m (List Selection)
  | [] => return []
  | item :: rest => do
    if ← p.keep path item then
      let item ← p.selection path item
      let rest ← p.selections path rest
      return item :: rest
    else
      p.selections path rest

end

/-- Rebuilds the selections of a definition. -/
def body (p : Pass m) (path : Path) (set : SelectionSet) : m SelectionSet :=
  (⟨set.span, ·⟩) <$> p.selections (.selectionSet :: path) set.items

/-- Rebuilds a variable's declaration. -/
def variableDef (p : Pass m) (path : Path) (var : VariableDef) : m VariableDef := do
  let path := .variableDefinition :: path
  let name ← p.rename path var.name
  let type ← p.type path var.type
  return { var with name, type }

/-- Rebuilds a name that may be missing. -/
def name? (p : Pass m) (path : Path) : Option String → m (Option String)
  | none => pure none
  | some name => some <$> p.rename path name

/-- Rebuilds what a definition says before its selections. -/
def head (p : Pass m) (path : Path) : Head → m Head
  | .bare => return .bare
  | .operation kind pos name? vars dirs => do
    let name? ← p.name? path name?
    let vars ← vars.mapM (p.variableDef path)
    return .operation kind pos name? vars dirs
  | .fragment pos name on dirs => do
    let name ← p.rename path name
    let on ← p.condition path on
    return .fragment pos name on dirs

/-- Rebuilds a definition. -/
def definition (p : Pass m) (definition : Definition) : m Definition := do
  let path := definition.head.path
  let head ← p.head path definition.head
  let body ← p.body path definition.body
  return ⟨head, body⟩

/-- Rebuilds a document. -/
def document (p : Pass m) (document : Document) : m Document :=
  (⟨·⟩) <$> document.definitions.mapM p.definition

/-- What a pass without effects makes of a document. -/
def run (p : Pass Id) (document : Document) : Document := Id.run (p.document document)

end Pass

end Refetch
