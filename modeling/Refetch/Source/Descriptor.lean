import Refetch.Json.Basic
import Refetch.Source.Load

/-!
# Descriptors of sources

A source as a JSON value: a text is the source's text; an object whose member `source` is a
text, a number or `true`, and not empty or zero, wraps the text of that scalar. Nothing else
describes a source.
-/

namespace Refetch

/-- Is the number zero as a double? -/
def Json.isZero : Json → Bool
  | .int n => n = 0
  | .float x => x == 0.0
  | _ => false

/-- The text that the member `source` of an object stands for. -/
def Json.sourceText? : Json → Option String
  | .string text => if text = "" then none else some text
  | .boolean true => some "true"
  | .int n => if (Json.int n).isZero then none else some (Json.int n).print
  | .float x => if (Json.float x).isZero then none else some (Json.float x).print
  | _ => none

/-- The source that a JSON value describes, if it is one of the shapes. -/
def Source.ofJson? : Json → Option Source
  | .string supplied => some (.text supplied)
  | .object members => ((member? "source" members).bind Json.sourceText?).map .wrapped
  | _ => none

/-- The source that a JSON value describes. -/
def Source.ofJson (json : Json) : Except LoadError Source :=
  match Source.ofJson? json with
  | some source => .ok source
  | none => .error (.unrecognizedShape json.print)

end Refetch
