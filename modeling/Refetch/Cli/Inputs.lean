import Refetch.Cli.Log
import Refetch.FileTree.Walk

/-!
# Input files

The files at or under some paths whose extension is one of those looked for. A single path to
a file is taken whatever its extension is, if nothing else is found: it is evidently meant.
-/

namespace Refetch

/-- What was found at or under some paths. -/
structure Inputs where
  /-- the files to process, in the order of the walks -/
  files : List String := []
  /-- the number of files passed over for their extension -/
  skipped : Nat := 0
  /-- what could not be entered -/
  errors : List WalkError := []
  deriving DecidableEq, Repr

namespace Inputs

/-- An extension without the dots before it. -/
def bareExtension (extension : String) : String :=
  .ofList (extension.toList.dropWhile (· = '.'))

/-- Has a path one of the extensions? -/
def isWanted (extensions : List String) (path : String) : Bool :=
  match FileTree.extension? path with
  | none => false
  | some extension => extensions.contains extension

/-- Takes in what a walk comes across. -/
def add (extensions : List String) (inputs : Inputs) : Encounter → Inputs
  | .directory _ => inputs
  | .file path =>
    if isWanted extensions path then { inputs with files := inputs.files ++ [path] }
    else { inputs with skipped := inputs.skipped + 1 }
  | .obstacle e => { inputs with errors := inputs.errors ++ [e] }

/-- What is said of what a walk from a path comes across. -/
def encounterLine (extensions : List String) (root : String) : Encounter → LogLine
  | .directory path => ⟨.trace, "Skipping non-file: " ++ Text.quote path ++ "."⟩
  | .file path =>
    if isWanted extensions path then ⟨.trace, "Found file at " ++ Text.quote path ++ "."⟩
    else ⟨.trace, "Skipping file with unmatched extension: " ++ Text.quote path ++ "."⟩
  | .obstacle _ =>
    ⟨.trace, "Encountered an error while iterating recursive filesystem entities at/under " ++
      Text.quote root ++ "."⟩

/-- Everything that the walks from some paths come across. -/
def encounters (tree : FileTree) (paths : List String) : List Encounter :=
  paths.flatMap tree.walk

/-- The path that is taken whatever its extension is, if there is one. -/
def evident? (tree : FileTree) (paths : List String) (inputs : Inputs) : Option String :=
  match inputs.files, paths with
  | [], [path] => if tree.isFile path then some path else none
  | _, _ => none

/-- Puts a text before the first one that it does not come after. -/
def placeInOrder (text : String) : List String → List String
  | [] => [text]
  | other :: rest =>
    if other < text then other :: placeInOrder text rest else text :: other :: rest

/-- Extensions as a message lists them: each one once, in the order of what is printed. -/
def listExtensions (extensions : List String) : String :=
  let shown := extensions.eraseDups.map fun extension => Text.inert ("`." ++ extension ++ "`")
  ", ".intercalate (shown.foldr placeInOrder [])

/-- The files at or under some paths. -/
def collect (tree : FileTree) (paths : List String) (extensions : List String) :
    Logged Inputs := do
  let wanted := extensions.map bareExtension
  log .debug ("Scanning " ++ toString paths.length ++ " input paths...")
  logAll (paths.flatMap fun path => (tree.walk path).map (encounterLine wanted path))
  let inputs := (encounters tree paths).foldl (add wanted) {}
  let inputs ← match evident? tree paths inputs with
    | none => pure inputs
    | some path => do
      log .warn ("Proceeding with " ++ Text.quote path ++
        " even though it doesn't match any of the expected file extensions (" ++
        listExtensions wanted ++ ").")
      pure { inputs with files := [path], skipped := inputs.skipped - 1 }
  log .debug ("Found " ++ toString inputs.files.length ++ " input files.")
  return inputs

end Inputs

end Refetch
