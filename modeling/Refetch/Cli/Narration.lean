import Refetch.Cli.Log
import Refetch.Pass.Visit
import Refetch.Adapter
import Refetch.Text.Lines

/-!
# Narration

What the log says about adapting a query: how the query was put together, which fields were
stripped, which types were renamed, why the query was skipped. The lines are read off the
visits of the two passes; adapting itself does not log.
-/

namespace Refetch

/-- What is said of a field that is stripped. -/
def strippingLines : Visit → List LogLine
  | .selection (.field head _ _) path false =>
    [⟨.debug, "Stripping derived field `" ++ head.name ++ "`."⟩,
     ⟨.trace, "Dropping selection at depth " ++ toString path.length ++ "."⟩]
  | _ => []

/-- What is said of a type that is renamed. -/
def renamingLines : Visit → List LogLine
  | .name old _ new =>
    if old = new then []
    else [⟨.trace, "Renaming type reference `" ++ old ++ "` to `" ++ new ++ "`."⟩]
  | _ => []

/-- What is said of loading a query with fragments: nothing for a query alone, and nothing
when a document among them is empty. -/
def compositionLines (request : Request) : List LogLine :=
  let pieces := request.query :: request.fragments
  if request.fragments.isEmpty || Source.hasEmptyDocument pieces then []
  else
    let bytes := Text.byteLength (Source.canonicalText pieces).toList
    let documents := (pieces.filter Source.isDocument).length
    [⟨.trace, "Composing query from " ++ toString bytes ++ " text bytes and " ++
      toString documents ++ " pre-parsed documents."⟩]

namespace Adapter

/-- What is said of adapting a document. -/
def documentLines (a : Adapter) (document : Document) : List LogLine :=
  match document.isolate a.rootField with
  | .error reason => [⟨.warn, reason.message⟩]
  | .ok isolated =>
    (a.rule.stripping.visits isolated).flatMap strippingLines ++
      (a.typePrefix.normalizing.visits (isolated.strip a.rule)).flatMap renamingLines

/-- What is said of adapting a request. -/
def requestLines (a : Adapter) (request : Request) : List LogLine :=
  compositionLines request ++
    match request.query.loadWith request.fragments with
    | .error _ => []
    | .ok document =>
      ⟨.debug, "Loaded preview query with " ++ toString document.definitions.length ++
        " definitions."⟩ :: a.documentLines document

end Adapter

end Refetch
