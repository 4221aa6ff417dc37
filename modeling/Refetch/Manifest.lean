import Refetch.Json.Reader
import Refetch.Adapter
import Refetch.Source.Descriptor

/-!
# Manifests

A request described in JSON: the query and the fragments as descriptors, the root field and
the type prefix. A manifest is an object with these members, or an array of the four in the
order `fragments`, `query`, `rootField`, `typePrefix`; all but the query may be missing.

It is read in one go, and the first problem met is the one reported. Descriptors are kept as
they are until a request is made of them.
-/

namespace Refetch

/-- A request described in JSON. -/
structure Manifest where
  /-- the query's descriptor -/
  query : Json
  /-- the fragments' descriptors -/
  fragments : List Json
  /-- the root field -/
  rootField : String
  /-- the type prefix -/
  typePrefix : String
  deriving Inhabited

namespace Manifest

open JsonReader

/-- The members read so far. -/
structure Draft where
  /-- the query, if it was there -/
  query? : Option Json := none
  /-- the fragments, if they were there -/
  fragments? : Option (List Json) := none
  /-- the root field, if it was there -/
  rootField? : Option String := none
  /-- the type prefix, if it was there -/
  typePrefix? : Option String := none

/-- How a manifest is called in messages. -/
def expected : String := "struct PreviewRequestManifest"

/-- The members of a manifest. -/
inductive Field where
  /-- the fragments -/
  | fragments
  /-- the query -/
  | query
  /-- the root field -/
  | rootField
  /-- the type prefix -/
  | typePrefix
  deriving DecidableEq, Repr

/-- The key of a member. -/
def Field.key : Field → String
  | .fragments => "fragments"
  | .query => "query"
  | .rootField => "rootField"
  | .typePrefix => "typePrefix"

/-- The member of a key. -/
def Field.ofKey? (key : String) : Option Field :=
  [Field.fragments, .query, .rootField, .typePrefix].find? (·.key = key)

/-- Has the member been read? -/
def Draft.has (draft : Draft) : Field → Bool
  | .fragments => draft.fragments?.isSome
  | .query => draft.query?.isSome
  | .rootField => draft.rootField?.isSome
  | .typePrefix => draft.typePrefix?.isSome

/-- How deep the values inside a manifest may nest. -/
def innerLimit : Nat := JsonReader.nestingLimit - 1

/-- Takes a text. -/
def textValue (fuel : Nat) : JsonReader String := do
  skipSpace
  if (← peek?) = some '"' then string false fuel else wrongType "a string" fuel

/-- Takes an array of values. -/
def arrayValue (fuel : Nat) : JsonReader (List Json) := do
  skipSpace
  if ← takeIf '[' then items false fuel (innerLimit - 1) true
  else wrongType "a sequence" fuel

/-- Takes the value of a member. -/
def fieldValue (fuel : Nat) (draft : Draft) : Field → JsonReader Draft
  | .fragments => return { draft with fragments? := some (← arrayValue fuel) }
  | .query => return { draft with query? := some (← value false fuel innerLimit) }
  | .rootField => return { draft with rootField? := some (← textValue fuel) }
  | .typePrefix => return { draft with typePrefix? := some (← textValue fuel) }

/-- Takes the members of an object and its closing brace. A member given twice shows at its
second key; members that a manifest does not have are skipped. -/
def fieldsOfObject : Nat → (first : Bool) → Draft → JsonReader Draft
  | 0, _, _ => malformed
  | fuel + 1, first, draft => do
    if ← another '}' first then
      match Field.ofKey? (← key fuel) with
      | none =>
        colon
        skipValue fuel
        fieldsOfObject fuel false draft
      | some field =>
        if draft.has field then throw (.duplicateField field.key)
        colon
        fieldsOfObject fuel false (← fieldValue fuel draft field)
    else
      return draft

/-- Takes the elements of an array and its closing bracket. -/
def fieldsOfArray (fuel : Nat) : List Field → (first : Bool) → Draft → JsonReader Draft
  | [], first, draft => do
    if ← another ']' first then malformed else return draft
  | field :: rest, first, draft => do
    if ← another ']' first then
      fieldsOfArray fuel rest false (← fieldValue fuel draft field)
    else
      return draft

/-- The manifest of what was read; without a query it fails as `missing` says. -/
def ofDraft (draft : Draft) (missing : Json.ReadError) : Except Json.ReadError Manifest :=
  match draft.query? with
  | none => .error missing
  | some query => .ok
    { query
      fragments := draft.fragments?.getD []
      rootField := draft.rootField?.getD ""
      typePrefix := draft.typePrefix?.getD "" }

/-- Takes a manifest. -/
def reader (fuel : Nat) : JsonReader Manifest := do
  skipSpace
  if ← takeIf '{' then
    let draft ← fieldsOfObject fuel true {}
    ofDraft draft (.missingField Field.query.key)
  else if ← takeIf '[' then
    let draft ← fieldsOfArray fuel [.fragments, .query, .rootField, .typePrefix] true {}
    ofDraft draft (.tooShort 1 (expected ++ " with 4 elements"))
  else
    wrongType expected fuel

/-- Reads a manifest from a text. -/
def parse (text : String) : Except Json.ReadError Manifest := run reader text

/-! ## What a manifest asks for -/

/-- The request: every descriptor as a source, the query first. -/
def request (manifest : Manifest) : Except LoadError Request := do
  let query ← Source.ofJson manifest.query
  let fragments ← manifest.fragments.mapM Source.ofJson
  return ⟨query, fragments⟩

/-- The adapter with the manifest's settings. -/
def adapter (manifest : Manifest) : Adapter :=
  (Adapter.default.setRootField manifest.rootField).setTypePrefix manifest.typePrefix

/-- Adapts what the manifest describes. -/
def adapt (manifest : Manifest) : Except LoadError Outcome := do
  manifest.adapter.adapt (← manifest.request)

end Manifest

end Refetch
