import Refetch.Json.Reader
import Refetch.Request
import Refetch.Source.Descriptor

/-!
# Sources as written

The ways to write a source down, and what can go wrong when such a source is resolved. The
text of a document is read at once; other text stays as it is until the source is loaded.
-/

namespace Refetch

/-- A source as it is written down. -/
inductive WrittenSource where
  /-- plain text -/
  | text (text : String)
  /-- wrapped text -/
  | wrapped (text : String)
  /-- the text of a document, to be read as it is -/
  | document (text : String)
  /-- the JSON text of a descriptor -/
  | json (text : String)
  /-- a document without definitions -/
  | empty

/-- Why a written source stands for none. -/
inductive SourceError where
  /-- the text is no document -/
  | parse (e : ParseError)
  /-- the text is no JSON -/
  | json (e : Json.ReadError)
  /-- the value describes no source -/
  | load (e : LoadError)

/-- The source that is written down. -/
def WrittenSource.resolve : WrittenSource → Except SourceError Source
  | text supplied => .ok (.text supplied)
  | wrapped supplied => .ok (.wrapped supplied)
  | document supplied =>
    match Document.parse supplied with
    | .ok ready => .ok (.document ready)
    | .error e => .error (.parse e)
  | json supplied =>
    match Json.parse supplied with
    | .error e => .error (.json e)
    | .ok value =>
      match Source.ofJson value with
      | .ok source => .ok source
      | .error e => .error (.load e)
  | empty => .ok (.document ⟨[]⟩)

/-- A query and its fragments, resolved in this order. -/
def WrittenSource.resolveAll (query : WrittenSource) (fragments : List WrittenSource) :
    Except SourceError Request := do
  let query ← query.resolve
  let fragments ← fragments.mapM WrittenSource.resolve
  return ⟨query, fragments⟩

end Refetch
