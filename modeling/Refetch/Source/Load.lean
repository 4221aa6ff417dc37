import Refetch.Document.Grammar
import Refetch.Source.Basic

/-!
# Loading sources

Makes one document of a query and its fragments. The pieces that are text are collapsed one
by one, put one after the other, and read as one text; the pieces that are documents are
carried over as they are. The definitions of a query that is a document come first, then
those of the text, then those of the fragments that are documents.

An error in the text is reported against what was supplied, not against its collapsed form;
only the place counts in the collapsed form.
-/

namespace Refetch

/-- Why a query cannot be loaded. -/
inductive LoadError where
  /-- a document, or everything together, has no definitions -/
  | emptyDocument
  /-- the text is not a document: where that shows, and the text as supplied -/
  | parseFailure (pos : Pos) (supplied : String)
  /-- a descriptor that is none of the shapes of a source, as text -/
  | unrecognizedShape (description : String)
  deriving DecidableEq, Repr

/-- The error in words. -/
def LoadError.message : LoadError → String
  | .emptyDocument => "Query document contains no definitions"
  | .parseFailure pos supplied =>
    "Could not parse query `" ++ supplied ++ "`: " ++ ParseError.message (.refused pos)
  | .unrecognizedShape description =>
    "Could not parse query: unrecognized query source shape `" ++ description ++ "`"

/-- A text, its blanks collapsed, as a document. -/
def parseCanonical (canonical supplied : String) : Except LoadError Document :=
  match Document.parse canonical with
  | .ok document => .ok document
  | .error e => .error (.parseFailure e.pos supplied)

namespace Source

/-- Loads a source by itself. -/
def load : Source → Except LoadError Document
  | .document ready =>
    if ready.definitions.isEmpty then .error .emptyDocument else .ok ready
  | .text supplied => parseCanonical (Text.collapse supplied) supplied
  | .wrapped supplied => parseCanonical (Text.collapse supplied) supplied

/-- The text of several pieces as supplied, one after the other. -/
def suppliedText (pieces : List Source) : String := String.join (pieces.filterMap text?)

/-- The collapsed texts of several pieces, one after the other. -/
def canonicalText (pieces : List Source) : String := String.join (pieces.filterMap canonical?)

/-- Is some piece a document without definitions? -/
def hasEmptyDocument (pieces : List Source) : Bool :=
  pieces.any fun piece => piece.isDocument && piece.definitions.isEmpty

/-- The definitions that the texts of the pieces hold together; no text holds none. -/
def textDefinitions (pieces : List Source) : Except LoadError (List Definition) :=
  let canonical := canonicalText pieces
  if canonical = "" then .ok []
  else (parseCanonical canonical (suppliedText pieces)).map Document.definitions

/-- Loads a query together with its fragments. -/
def loadWith (query : Source) (fragments : List Source) : Except LoadError Document :=
  if fragments.isEmpty then query.load
  else
    let pieces := query :: fragments
    if hasEmptyDocument pieces then .error .emptyDocument
    else do
      let inText ← textDefinitions pieces
      match query.definitions ++ inText ++ fragments.flatMap definitions with
      | [] => .error .emptyDocument
      | all => .ok ⟨all⟩

end Source

end Refetch
