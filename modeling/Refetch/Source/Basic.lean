import Refetch.Text.Blank
import Refetch.Document.Basic

/-!
# Query sources

The shapes in which a query or a fragment is handed over: as text, as text wrapped in an
object, or as a document that was read before.
-/

namespace Refetch

/-- A query or a fragment as it is handed over. -/
inductive Source where
  /-- a document read before -/
  | document (document : Document)
  /-- plain text -/
  | text (text : String)
  /-- text that an object wraps -/
  | wrapped (text : String)
  deriving Inhabited

namespace Source

/-- The text as supplied; a document has none. -/
def text? : Source → Option String
  | .document _ => none
  | .text supplied => some supplied
  | .wrapped supplied => some supplied

/-- The text with its blanks collapsed; a document has none. -/
def canonical? (source : Source) : Option String := source.text?.map Text.collapse

/-- The definitions that come ready made: those of a document. -/
def definitions : Source → List Definition
  | .document ready => ready.definitions
  | _ => []

/-- Is it a document? -/
def isDocument : Source → Bool
  | .document _ => true
  | _ => false

end Source

end Refetch
