import Refetch.Cli.Command

/-!
# The program

Reads the files that a call names into a file tree, answers the call, and prints the answer:
the log and the failures to standard error, the adapted queries to standard output.
-/

namespace Refetch.Program

/-- The help text. -/
def helpText : String :=
  "Turn page queries into queries for a live preview.\n\n" ++
  "Usage: preview-query [OPTIONS] [COMMAND]\n\n" ++
  "Commands:\n" ++
  "  rewrite [--fragment PATHS] [--graphql-file-exts EXTS] [--root-field NAME]\n" ++
  "          [--type-prefix NAME] FILE_OR_DIR_PATHS...\n" ++
  "           Turn GraphQL query files into preview re-fetch queries\n" ++
  "  request [--manifest-file-exts EXTS] FILE_OR_DIR_PATHS...\n" ++
  "           Turn the queries of JSON request manifests into such queries\n" ++
  "  help     Print this message\n\n" ++
  "Options:\n" ++
  "  -v, --verbose  Enable verbose output\n" ++
  "  -h, --help     Print help\n" ++
  "  -V, --version  Print version\n"

/-- What is said of arguments that make no sense. -/
def usageText : String := "error: invalid arguments\n\nFor more information, try '--help'.\n"

/-- A link that leads nowhere. -/
def brokenLink : Node := .link "\x00"

/-- A link to the directory `levels` above the one that holds it. -/
def linkUp (levels : Nat) : Node := .link ("/".intercalate ("." :: .replicate levels ".."))

/-- What the system says of a file or a directory that cannot be read. -/
def reasonOf : IO.Error → String
  | .permissionDenied .. => "Permission denied (os error 13)"
  | e => toString e

/-- What is said of a text that is no manifest. -/
def jsonWords (_text : String) (e : Json.ReadError) : String := e.message?.getD "malformed JSON"

/-- Reads what a path leads to. `trail` holds the directories on the way, the nearest first;
a link back to one of them stays a link. -/
partial def readNode (path : String) (trail : List String) : IO Node := do
  let real ← try some <$> IO.FS.realPath path catch _ => pure none
  match real with
  | none => return brokenLink
  | some real =>
    match trail.findIdx? (· = real.toString) with
    | some levels => return linkUp levels
    | none =>
      if ← real.isDir then
        try
          let entries ← real.readDir
          let nodes ← entries.toList.mapM fun entry => do
            let node ← readNode (FileTree.join real.toString entry.fileName)
              (real.toString :: trail)
            return (entry.fileName, node)
          return nodes.foldl (fun directory (name, node) => Node.insert node [name] directory)
            (.directory [])
        catch e => return .closed (reasonOf e)
      else
        try return .file (← IO.FS.readBinFile path).toList
        catch e => return .unreadable (reasonOf e)

/-- Adds what a path leads to, with the directories on the way. -/
def addPath (tree : FileTree) (path : String) : IO FileTree := do
  let pathParts := (FileTree.parts path).filter fun part => part ≠ "" && part ≠ "."
  let step := fun (state : Location × Node) (part : String) =>
    let location := if part = ".." then state.1.tail else part :: state.1
    let known := (FileTree.nodeBelow? state.2 location.reverse).isSome
    (location, if known then state.2 else Node.insert (.directory []) location.reverse state.2)
  let (location, root) := pathParts.foldl step (FileTree.startOf tree.here path, tree.root)
  let node ← readNode path []
  return { tree with root := Node.insert node location.reverse root }

/-- The paths that a call reads. -/
def pathsOf : Option Call → List String
  | some (.run _ (some (.queries options))) => options.fragments ++ options.paths
  | some (.run _ (some (.manifests options))) => options.paths
  | _ => []

/-- Reads the file tree of a call. Paths that lead nowhere are left out. -/
def readTree (args : List String) : IO FileTree := do
  let here := (FileTree.parts (← IO.currentDir).toString).filter (· ≠ "")
  let root := Node.insert (.directory []) here (.directory [])
  let mut tree : FileTree := { root, here := here.reverse }
  for path in pathsOf (Call.read false args) do
    let known ← try (fun _ => true) <$> IO.FS.realPath path catch _ => pure false
    if known then
      tree ← addPath tree path
  return tree

/-- Prints the log. -/
def printLines (lines : List LogLine) : IO Unit := do
  for line in lines do
    IO.eprintln (line.level.name ++ " " ++ line.text)

end Refetch.Program

open Refetch Refetch.Program in
/-- Answers a call and gives its exit code. -/
def main (args : List String) : IO UInt32 := do
  let tree ← readTree args
  match Answer.ofArguments jsonWords tree (← IO.getEnv "LOG_LEVEL") args with
  | .usageError =>
    IO.eprint usageText
    return 2
  | .help lines =>
    printLines lines
    IO.print helpText
    return 0
  | .version =>
    IO.println versionText
    return 0
  | .report report lines =>
    printLines lines
    IO.print report.stdout
    IO.eprint report.stderr
    return report.exit.toUInt32
