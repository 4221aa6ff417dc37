import Refetch.DerivedField
import Refetch.Isolation
import Refetch.Request
import Refetch.Source.Load
import Refetch.TypePrefix

/-!
# The adapter

Turns the query that a page declares for its build into the one that re-fetches the page's
data from a live preview: load it, narrow it to the root field, strip derived fields, take
the prefix off type names. A query that cannot be loaded is an error; one that cannot be
narrowed is skipped, with the reason.
-/

namespace Refetch

/-- What became of a document. -/
inductive Outcome where
  /-- the query for the re-fetch -/
  | adapted (document : Document)
  /-- no query, and why -/
  | skipped (reason : IsolationError)

namespace Outcome

/-- The query, if there is one. -/
def document? : Outcome → Option Document
  | adapted document => some document
  | skipped _ => none

/-- What there is to report. -/
def diagnostics : Outcome → List IsolationError
  | adapted _ => []
  | skipped reason => [reason]

end Outcome

/-- How queries are adapted. The marker of the prefix is kept beside it. -/
structure Adapter where
  /-- which fields are derived -/
  rule : DerivedRule
  /-- the field whose selections become the query; empty for the whole query -/
  rootField : String
  /-- the prefix taken off type names; empty for none -/
  prefixName : String
  /-- the marker of that prefix -/
  typePrefix : TypePrefix
  deriving DecidableEq, Repr

namespace Adapter

/-- The adapter that strips by the usual rule and does nothing else. -/
protected def default : Adapter := ⟨.default, "", "", .none⟩

instance : Inhabited Adapter := ⟨.default⟩

/-- Sets which fields are derived. -/
def setRule (a : Adapter) (rule : DerivedRule) : Adapter := { a with rule }

/-- Sets the root field. -/
def setRootField (a : Adapter) (rootField : String) : Adapter := { a with rootField }

/-- Sets the prefix, and its marker with it. -/
def setTypePrefix (a : Adapter) (prefixName : String) : Adapter :=
  { a with prefixName, typePrefix := .ofName prefixName }

/-- Adapts a document. -/
def adaptDocument (a : Adapter) (document : Document) : Outcome :=
  match document.isolate a.rootField with
  | .error reason => .skipped reason
  | .ok isolated => .adapted ((isolated.strip a.rule).normalize a.typePrefix)

/-- Loads a request and adapts it. -/
def adapt (a : Adapter) (request : Request) : Except LoadError Outcome :=
  (request.query.loadWith request.fragments).map a.adaptDocument

end Adapter

end Refetch
