import Refetch.Cli.Inputs
import Refetch.Cli.Narration
import Refetch.Document.Printer
import Refetch.Manifest
import Refetch.Text.Utf8

/-!
# Batches

Adapts files one by one. What a file holds is a `Job`: an adapter and a request. Files that
fail do not keep the others from being adapted; a batch collects the outputs of those that
succeed and a line for each failure, and its report says how many of each there are.

A reader that breaks down over a file is no failure of that file but the end of the run, which
has written nothing by then.
-/

namespace Refetch

/-- Why a file cannot be read as text. -/
inductive ContentError where
  /-- the path leads to no file -/
  | notAFile (path : String)
  /-- the file cannot be read -/
  | unreadable (path : String) (reason : String)
  /-- the bytes are no text -/
  | notText (path : String) (e : Text.Utf8Error)
  deriving DecidableEq, Repr

/-- The error in words. -/
def ContentError.message : ContentError → String
  | notAFile path => "Path is not a file: " ++ Text.quote path
  | unreadable path reason => "Failed to read file at " ++ Text.quote path ++ ": " ++ reason
  | notText path e => "File at " ++ Text.quote path ++ " is not valid UTF-8: " ++ e.message

/-- Why a file cannot be adapted. -/
inductive FileError where
  /-- it cannot be read as text -/
  | content (e : ContentError)
  /-- it is no document -/
  | parse (path : String) (e : ParseError)
  /-- it is no manifest, as the reader of JSON says in its own words -/
  | manifest (cause : String)
  /-- the query cannot be loaded -/
  | load (e : LoadError)
  /-- the query is skipped -/
  | isolation (e : IsolationError)

/-- The error in words. -/
def FileError.message : FileError → String
  | content e => e.message
  | parse path e => "Failed to parse GraphQL file " ++ Text.quote path ++ ": " ++ e.message
  | manifest cause => "Invalid request manifest: " ++ cause
  | load e => e.message
  | isolation e => e.message

/-- Did the reader break down over the file? -/
def FileError.isCrash : FileError → Bool
  | parse _ e => e.isCrash
  | _ => false

/-! ## Files -/

/-- The text of a file. -/
def FileTree.content (tree : FileTree) (path : String) : Except ContentError String :=
  match tree.file? path with
  | none => .error (.notAFile path)
  | some (.error reason) => .error (.unreadable path reason)
  | some (.ok bytes) =>
    match Text.ofUtf8 bytes with
    | .ok text => .ok text
    | .error e => .error (.notText path e)

/-- The document that a text from a file holds. It is read as written, since collapsing the
text would let a comment reach beyond its line. -/
def parseFile (path text : String) : Except FileError Document :=
  match Document.parse text with
  | .ok document => .ok document
  | .error e => .error (.parse path e)

/-- What a file asks to have adapted. -/
structure Job where
  /-- the adapter -/
  adapter : Adapter
  /-- the request -/
  request : Request

/-- The text of a file that is to be adapted. -/
def FileTree.inputText (tree : FileTree) (path : String) : Except FileError String :=
  match tree.content path with
  | .ok text => .ok text
  | .error e => .error (.content e)

/-- The job of a query file: its document, with the same fragments and settings for all. -/
def Job.ofQueryFile (tree : FileTree) (adapter : Adapter) (fragments : List Source)
    (path : String) : Except FileError Job := do
  let text ← tree.inputText path
  let document ← parseFile path text
  return ⟨adapter, .document document, fragments⟩

/-- What a reader of JSON says of a text in which this is wrong. The words are its own. -/
abbrev JsonWords := String → Json.ReadError → String

/-- The job of a manifest file. -/
def Job.ofManifestFile (words : JsonWords) (tree : FileTree) (path : String) :
    Except FileError Job := do
  let text ← tree.inputText path
  match Manifest.parse text with
  | .error e => throw (.manifest (words text e))
  | .ok manifest =>
    match manifest.request with
    | .error e => throw (.load e)
    | .ok request => return ⟨manifest.adapter, request⟩

/-- The document that a job comes to. -/
def Job.result (job : Job) : Except FileError Document :=
  match job.adapter.adapt job.request with
  | .error e => .error (.load e)
  | .ok (.skipped reason) => .error (.isolation reason)
  | .ok (.adapted document) => .ok document

/-- What a file comes to on standard output: its path as a comment, and the document. -/
def outputOf (path : String) (document : Document) : String :=
  "# " ++ path ++ "\n" ++ document.print

/-- Adapts one file. -/
def adaptFile (jobOf : String → Except FileError Job) (path : String) :
    Except FileError String := do
  let job ← jobOf path
  return outputOf path (← job.result)

/-- Does the reader break down over a file? -/
def breaksDown (jobOf : String → Except FileError Job) (path : String) : Bool :=
  match jobOf path with
  | .error e => e.isCrash
  | .ok _ => false

/-- What is said of adapting one file. -/
def fileLines (jobOf : String → Except FileError Job) (announce : String) (path : String) :
    List LogLine :=
  ⟨.debug, announce ++ " " ++ Text.quote path ++ "..."⟩ ::
    match jobOf path with
    | .error _ => []
    | .ok job => job.adapter.requestLines job.request

/-! ## Batches -/

/-- The outcome of a run: its exit code and what it writes. -/
structure Report where
  /-- the exit code -/
  exit : Nat
  /-- standard output -/
  stdout : String
  /-- standard error, the log left out -/
  stderr : String
  deriving DecidableEq, Repr

/-- The outcome of a run that breaks down: nothing that it has come to is written. What the
system says of it on standard error is left out. -/
def Report.crashed : Report := ⟨101, "", ""⟩

/-- What became of the files of a batch. -/
structure Batch where
  /-- the outputs, in order -/
  outputs : List String := []
  /-- a line for each failure, in order -/
  failures : List String := []
  deriving DecidableEq, Repr

namespace Batch

/-- Takes in what became of a file. -/
def add (batch : Batch) (path : String) : Except FileError String → Batch
  | .ok output => { batch with outputs := batch.outputs ++ [output] }
  | .error e => { batch with failures := batch.failures ++ [path ++ ": " ++ e.message] }

/-- Adapts the files of a batch. What could not be entered comes before all failures of
files. -/
def ofInputs (adapt : String → Except FileError String) (inputs : Inputs) : Batch :=
  inputs.files.foldl (fun batch path => batch.add path (adapt path))
    { failures := inputs.errors.map WalkError.message }

/-- What goes to standard output: the outputs with an empty line between them. -/
def stdout (batch : Batch) : String := "\n".intercalate batch.outputs

/-- The list of failures with their number. -/
def failureText (batch : Batch) : String :=
  "❌ Failed to rewrite " ++ toString batch.failures.length ++ " of " ++
    toString (batch.failures.length + batch.outputs.length) ++ " inputs:\n" ++
    "\n".intercalate (batch.failures.map ("  * " ++ ·))

/-- A text as a line of its own; no line for no text. -/
def lineUnlessEmpty (text : String) : String := if text = "" then "" else text ++ "\n"

/-- The report of a batch: it fails if any of its files did, or if anything could not be
entered. -/
def report (batch : Batch) (skipped : Nat) : Logged Report :=
  if batch.failures.isEmpty then do
    log .info ("✅ Rewrote " ++ toString batch.outputs.length ++ " inputs (skipped " ++
      toString skipped ++ " unmatched files).")
    return ⟨0, batch.stdout ++ "\n", ""⟩
  else
    return ⟨1, lineUnlessEmpty batch.stdout, batch.failureText ++ "\n"⟩

end Batch

/-- Collects files and adapts them. If the reader breaks down over one of them, so does the run,
and it comes no further than to that file. -/
def runBatch (tree : FileTree) (paths extensions : List String)
    (jobOf : String → Except FileError Job) (announce : String) : Logged Report := do
  let inputs ← Inputs.collect tree paths extensions
  let sound := inputs.files.takeWhile (!breaksDown jobOf ·)
  logAll ((inputs.files.take (sound.length + 1)).flatMap (fileLines jobOf announce))
  if inputs.files.any (breaksDown jobOf) then return .crashed
  else (Batch.ofInputs (adaptFile jobOf) inputs).report inputs.skipped

end Refetch
