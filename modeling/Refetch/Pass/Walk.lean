import Refetch.Pass.Basic

/-!
# Walks

A walk takes a pass through a document without handing paths down: the kinds of the nodes that
have been entered and not yet left stand on one stack, which all steps share. A node pushes its
kind on the way in and pops it on the way out, and the pass is asked under what is on the stack
at the time.
-/

namespace Refetch

/-- The kind of node that a definition with this head is. -/
def Head.kind : Head → NodeKind
  | .fragment .. => .fragmentDefinition
  | _ => .operationDefinition

/-- A step of a walk, which may change the stack of the nodes that have been entered, the last
one first. -/
abbrev Walk (m : Type → Type) := StateT Path m

namespace Walk

variable {m : Type → Type} [Monad m] {α : Type}

/-- Enters a node, does what is to be done there and leaves the node. -/
def within (kind : NodeKind) (inside : Walk m α) : Walk m α := do
  modify (kind :: ·)
  let result ← inside
  modify List.tail
  return result

variable (p : Pass m)

/-- Asks what a name of the node last entered becomes. -/
def name (name : String) : Walk m String := do
  p.rename (← get) name

/-- Asks what a name becomes that may be missing. -/
def name? : Option String → Walk m (Option String)
  | none => pure none
  | some text => some <$> name p text

/-- Walks through a type. -/
def type : TypeRef → Walk m TypeRef
  | .named text => within .namedType (.named <$> name p text)
  | .list inner => within .listType (.list <$> type inner)
  | .nonNull inner => within .nonNullType (.nonNull <$> type inner)

/-- Walks through a type condition. -/
def condition (on : String) : Walk m String := within .namedType (name p on)

/-- Walks through a type condition that may be missing. -/
def condition? : Option String → Walk m (Option String)
  | none => pure none
  | some on => some <$> condition p on

mutual

/-- Walks through a selection that stays. -/
def selection : Selection → Walk m Selection
  | .field head span items => within .field do
    let name ← name p head.name
    let items ← within .selectionSet (selections items)
    return .field { head with name } span items
  | .spread pos text dirs => within .fragmentSpread do
    let text ← name p text
    return .spread pos text dirs
  | .inline pos on? dirs span items => within .inlineFragment do
    let on? ← condition? p on?
    let items ← within .selectionSet (selections items)
    return .inline pos on? dirs span items

/-- Walks through the selections of a set; one that does not stay is not entered. -/
def selections : List Selection → Walk m (List Selection)
  | [] => return []
  | item :: rest => do
    if ← p.keep (← get) item then
      let item ← selection item
      let rest ← selections rest
      return item :: rest
    else
      selections rest

end

/-- Walks through the selections of a definition. -/
def body (set : SelectionSet) : Walk m SelectionSet :=
  within .selectionSet ((⟨set.span, ·⟩) <$> selections p set.items)

/-- Walks through a variable's declaration. -/
def variableDef (var : VariableDef) : Walk m VariableDef := within .variableDefinition do
  let name ← name p var.name
  let type ← type p var.type
  return { var with name, type }

/-- Walks through what a definition says before its selections. -/
def head : Head → Walk m Head
  | .bare => return .bare
  | .operation kind pos text? vars dirs => do
    let text? ← name? p text?
    let vars ← vars.mapM (variableDef p)
    return .operation kind pos text? vars dirs
  | .fragment pos text on dirs => do
    let text ← name p text
    let on ← condition p on
    return .fragment pos text on dirs

/-- Walks through a definition. -/
def definition (definition : Definition) : Walk m Definition :=
  within definition.head.kind do
    let head ← head p definition.head
    let body ← body p definition.body
    return ⟨head, body⟩

/-- Walks through a document. -/
def document (document : Document) : Walk m Document :=
  within .document ((⟨·⟩) <$> document.definitions.mapM (definition p))

end Walk

end Refetch
