import Refetch.Cli.Arguments
import Refetch.Cli.Batch

/-!
# The command line

Runs a call on a file tree. Two subcommands adapt files in batches: one takes query files, with
the fragments and settings given as options, the other what manifests describe.
-/

namespace Refetch

/-- The answer to a call. -/
inductive Answer where
  /-- the arguments make no sense -/
  | usageError
  /-- the help text -/
  | help (lines : List LogLine)
  /-- the version -/
  | version
  /-- a report, with the log -/
  | report (report : Report) (lines : List LogLine)

/-- The program's name and version. -/
def versionText : String := "preview-query 0.0.1"

/-- Why a fragment file cannot be loaded. -/
inductive FragmentError where
  /-- it cannot be read as text -/
  | content (path : String) (e : ContentError)
  /-- it is no document -/
  | file (e : FileError)

/-- The error in words. -/
def FragmentError.message : FragmentError → String
  | content path e => "Failed to load fragment " ++ Text.quote path ++ ": " ++ e.message
  | file e => e.message

/-- Did the reader break down over the fragment file? -/
def FragmentError.isCrash : FragmentError → Bool
  | content .. => false
  | file e => e.isCrash

/-- Loads a fragment file. -/
def loadFragment (tree : FileTree) (path : String) : Except FragmentError Source :=
  match tree.content path with
  | .error e => .error (.content path e)
  | .ok text =>
    match parseFile path text with
    | .error e => .error (.file e)
    | .ok document => .ok (.document document)

/-- Loads fragment files; the first failure ends it. -/
def loadFragments (tree : FileTree) : List String → Except FragmentError (List Source)
  | [] => .ok []
  | path :: rest =>
    match loadFragment tree path with
    | .error e => .error e
    | .ok source => (loadFragments tree rest).map (source :: ·)

namespace Subcommand

/-- Adapts query files. Without all the fragments it does nothing. -/
def runQueries (tree : FileTree) (options : QueryOptions) : Logged Report :=
  match loadFragments tree options.fragments with
  | .error e => return if e.isCrash then .crashed else ⟨1, "", "❌ " ++ e.message ++ "\n"⟩
  | .ok fragments =>
    let adapter := (Adapter.default.setRootField options.rootField).setTypePrefix
      options.typePrefix
    runBatch tree options.paths options.extensions (Job.ofQueryFile tree adapter fragments)
      "Rewriting"

/-- Adapts what manifests describe. -/
def runManifests (words : JsonWords) (tree : FileTree) (options : ManifestOptions) :
    Logged Report :=
  runBatch tree options.paths options.extensions (Job.ofManifestFile words tree)
    "Rewriting request manifest"

/-- Runs a subcommand. -/
def run (words : JsonWords) (tree : FileTree) : Subcommand → Logged Report
  | queries options => runQueries tree options
  | manifests options => runManifests words tree options

end Subcommand

namespace Call

/-- Drops the blanks at both ends of a setting. -/
def trimSetting (setting : String) : String :=
  let front := setting.toList.dropWhile Text.isBlank
  .ofList (front.reverse.dropWhile Text.isBlank).reverse

/-- The level of the log, and what is said about the choice: much talk asks for details,
else the setting decides, and one that makes no sense is reported. -/
def chooseLevel (verbose : Bool) (setting? : Option String) : LogLevel × List LogLine :=
  let (level, complaints) : LogLevel × List LogLine :=
    if verbose then (.debug, [])
    else match setting?.map trimSetting with
      | none => (.info, [])
      | some setting =>
        match LogLevel.ofSetting? setting with
        | some level => (level, [])
        | none =>
          (.info, [⟨.warn, "Invalid `LOG_LEVEL` environment variable value: `" ++
            setting ++ "`"⟩])
  (level, ⟨.trace, "Initial logging level set to `" ++ level.name ++ "`."⟩ :: complaints)

/-- Runs a call. -/
def perform (words : JsonWords) (tree : FileTree) (setting? : Option String) : Call → Answer
  | help => .help []
  | version => .version
  | run verbose command? =>
    let (level, lines) := chooseLevel verbose setting?
    match command? with
    | none => .help (level.shown lines)
    | some command =>
      let logged := command.run words tree
      .report logged.value (level.shown (lines ++ logged.events))

end Call

/-- The answer to a call with these arguments. -/
def Answer.ofArguments (words : JsonWords) (tree : FileTree) (setting? : Option String)
    (args : List String) : Answer :=
  match Call.read false args with
  | none => .usageError
  | some call => call.perform words tree setting?

end Refetch
