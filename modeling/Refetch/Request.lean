import Refetch.Source.Basic

/-!
# Requests

What a page asks to have adapted: its query, and the fragments that the query includes.
-/

namespace Refetch

/-- A query with its fragments. -/
structure Request where
  /-- the query -/
  query : Source
  /-- its fragments, in order -/
  fragments : List Source
  deriving Inhabited

namespace Request

/-- A query without fragments. -/
def ofQuery (query : Source) : Request := ⟨query, []⟩

/-- Adds a fragment after the others. -/
def addFragment (request : Request) (fragment : Source) : Request :=
  { request with fragments := request.fragments ++ [fragment] }

@[simp] theorem fragments_addFragment (request : Request) (fragment : Source) :
    (request.addFragment fragment).fragments = request.fragments ++ [fragment] := rfl

@[simp] theorem query_addFragment (request : Request) (fragment : Source) :
    (request.addFragment fragment).query = request.query := rfl

end Request

end Refetch
