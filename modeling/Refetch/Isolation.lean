import Refetch.Document.Basic

/-!
# Isolating a root field

Narrows a document to what lies under one field at the top of its first definition: the first
selection there that is a field of the wanted name, whatever its alias, gives its own
selections to the definition in place of the old ones. The other definitions stay.
-/

namespace Refetch

/-- Why a document cannot be narrowed. -/
inductive IsolationError where
  /-- no field of this name stands at the top of the first definition -/
  | rootFieldNotFound (field : String)
  /-- the first field of this name has no selections to take its place -/
  | rootFieldHasNoSelections (field : String)
  deriving DecidableEq, Repr

/-- The field that the error is about. -/
def IsolationError.field : IsolationError → String
  | rootFieldNotFound field => field
  | rootFieldHasNoSelections field => field

/-- The error in words. -/
def IsolationError.message : IsolationError → String
  | rootFieldNotFound field =>
    "Failed to update query root: no top-level field named `" ++ field ++ "`"
  | rootFieldHasNoSelections field =>
    "Failed to update query root: field `" ++ field ++
      "` is a leaf and has no selections to promote"

/-- The selections of the first field of a name among some selections. -/
def firstFieldNamed? (name : String) : List Selection → Option SelectionSet
  | [] => none
  | .field head span items :: rest =>
    if head.name = name then some ⟨span, items⟩ else firstFieldNamed? name rest
  | _ :: rest => firstFieldNamed? name rest

/-- Narrows a document to what lies under its top-level field `root`; an empty name leaves it
as it is. -/
def Document.isolate (document : Document) (root : String) : Except IsolationError Document :=
  if root = "" then .ok document
  else
    match document.definitions with
    | [] => .error (.rootFieldNotFound root)
    | first :: others =>
      match firstFieldNamed? root first.body.items with
      | none => .error (.rootFieldNotFound root)
      | some ⟨_, []⟩ => .error (.rootFieldHasNoSelections root)
      | some set => .ok ⟨{ first with body := set } :: others⟩

end Refetch
