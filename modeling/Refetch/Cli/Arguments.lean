/-!
# Command-line arguments

What the arguments of a call ask for. They are read from the left, and the first thing that
decides does: a request for help is granted even if nonsense follows, and nonsense is refused
even if a request for help follows.

Before the subcommand stand the flags of the program, after it its options and paths in any
order. Two dashes end the options.
-/

namespace Refetch

/-- How the values of an option are taken. -/
inductive OptionKind where
  /-- one value, given once -/
  | single
  /-- values with commas between them, given any number of times -/
  | several
  /-- paths with commas between them, given any number of times; none is empty -/
  | paths
  deriving DecidableEq, Repr

/-- What was read of a subcommand's arguments: every option given, by its name, with its
values, and the paths. -/
structure Given where
  /-- options and their values, in order -/
  options : List (String × String) := []
  /-- the paths, in order -/
  paths : List String := []
  deriving DecidableEq, Repr

/-- The outcome of reading arguments that are not refused. -/
inductive Asked (α : Type) where
  /-- help is asked for -/
  | help
  /-- something else is -/
  | other (x : α)
  deriving DecidableEq, Repr

/-- What is asked of query files. -/
structure QueryOptions where
  /-- the fragment files -/
  fragments : List String
  /-- the extensions to look for -/
  extensions : List String
  /-- the root field -/
  rootField : String
  /-- the type prefix -/
  typePrefix : String
  /-- where to look -/
  paths : List String
  deriving DecidableEq, Repr

/-- What is asked of manifests. -/
structure ManifestOptions where
  /-- the extensions to look for -/
  extensions : List String
  /-- where to look -/
  paths : List String
  deriving DecidableEq, Repr

/-- A subcommand and what it is asked to do. -/
inductive Subcommand where
  /-- adapt query files -/
  | queries (options : QueryOptions)
  /-- adapt what manifests describe -/
  | manifests (options : ManifestOptions)
  deriving DecidableEq, Repr

/-- What a call asks for. -/
inductive Call where
  /-- help, and nothing else -/
  | help
  /-- the version -/
  | version
  /-- a subcommand, or none, with or without much talk -/
  | run (verbose : Bool) (command? : Option Subcommand)
  deriving DecidableEq, Repr

namespace Given

/-- Does an argument look like an option? A dash alone does not. -/
def looksLikeOption (arg : String) : Bool := arg.startsWith "-" && arg ≠ "-"

/-- Splits an argument at its first equals sign. -/
def splitValue (arg : String) : String × Option String :=
  let chars := arg.toList
  let name := String.ofList (chars.takeWhile (· ≠ '='))
  match chars.dropWhile (· ≠ '=') with
  | [] => (name, none)
  | _ :: value => (name, some (.ofList value))

/-- The values of an option's text. -/
def valuesOf (kind : OptionKind) (text : String) : List String :=
  match kind with
  | .single => [text]
  | _ => text.splitOn ","

/-- Adds an option; it is refused if it may not be given again, or if one of its paths is
empty. -/
def addOption (given : Given) (name : String) (kind : OptionKind) (text : String) :
    Option Given :=
  let values := valuesOf kind text
  let again := kind = .single && given.options.any (·.1 = name)
  let hollow := kind = .paths && values.contains ""
  if again || hollow then none
  else some { given with options := given.options ++ values.map (name, ·) }

/-- Adds a path; the empty one is refused. -/
def addPath (given : Given) (path : String) : Option Given :=
  if path = "" then none else some { given with paths := given.paths ++ [path] }

/-- Reads arguments that are all paths. -/
def onlyPaths : List String → Given → Option Given
  | [], given => some given
  | path :: rest, given => (given.addPath path).bind (onlyPaths rest)

/-- Reads the arguments of a subcommand whose options `kind?` tells; `none` refuses them. -/
def read (kind? : String → Option OptionKind) :
    List String → Given → Option (Asked Given)
  | [], given => some (.other given)
  | arg :: rest, given =>
    if arg = "--" then (onlyPaths rest given).map .other
    else if arg.startsWith "--" then
      let (name, attached?) := splitValue arg
      if name = "--help" then if attached?.isNone then some .help else none
      else
        match kind? name, attached?, rest with
        | none, _, _ => none
        | some kind, some text, rest => (given.addOption name kind text).bind (read kind? rest)
        | some _, none, [] => none
        | some kind, none, text :: rest =>
          if looksLikeOption text then none
          else (given.addOption name kind text).bind (read kind? rest)
    else if looksLikeOption arg then
      if arg.startsWith "-h" then some .help else none
    else (given.addPath arg).bind (read kind? rest)

/-- The values of an option. -/
def values (given : Given) (name : String) : List String :=
  (given.options.filter (·.1 = name)).map (·.2)

/-- The values of an option, or others if it was not given. -/
def valuesOr (given : Given) (name : String) (default : List String) : List String :=
  match given.values name with
  | [] => default
  | values => values

end Given

namespace Subcommand

/-- The options for query files. -/
def queriesKind? (name : String) : Option OptionKind :=
  if name = "--fragment" then some .paths
  else if name = "--graphql-file-exts" then some .several
  else if name = "--root-field" || name = "--type-prefix" then some .single
  else none

/-- The options for manifests. -/
def manifestsKind? (name : String) : Option OptionKind :=
  if name = "--manifest-file-exts" then some .several else none

/-- What arguments ask of query files. -/
def queriesOf (given : Given) : Subcommand :=
  .queries
    { fragments := given.values "--fragment"
      extensions := given.valuesOr "--graphql-file-exts" ["graphql", "gql"]
      rootField := (given.values "--root-field").headD ""
      typePrefix := (given.values "--type-prefix").headD ""
      paths := given.paths }

/-- What arguments ask of manifests. -/
def manifestsOf (given : Given) : Subcommand :=
  .manifests
    { extensions := given.valuesOr "--manifest-file-exts" ["json"]
      paths := given.paths }

/-- Reads the arguments of a subcommand, which needs a path at least. -/
def read (kind? : String → Option OptionKind) (ofGiven : Given → Subcommand)
    (args : List String) : Option (Asked Subcommand) :=
  match Given.read kind? args {} with
  | none => none
  | some .help => some .help
  | some (.other given) => if given.paths.isEmpty then none else some (.other (ofGiven given))

end Subcommand

namespace Call

/-- The subcommands, with help for them among them. -/
def subcommands : List String := ["rewrite", "request", "help"]

/-- Reads what help is asked about: nothing, or one subcommand. -/
def readHelp : List String → Option Call
  | [] => some .help
  | [name] => if subcommands.contains name then some .help else none
  | _ => none

/-- Reads the letters of flags. Either the call is settled by one of them, or it goes on,
with or without much talk. -/
def readFlags : List Char → (verbose : Bool) → Option (Call ⊕ Bool)
  | [], verbose => some (.inr verbose)
  | 'h' :: _, _ => some (.inl .help)
  | 'V' :: _, _ => some (.inl .version)
  | 'v' :: rest, false => readFlags rest true
  | _, _ => none

/-- Completes a subcommand. -/
def ofSubcommand (verbose : Bool) : Option (Asked Subcommand) → Option Call
  | none => none
  | some .help => some .help
  | some (.other command) => some (.run verbose (some command))

/-- Reads arguments; `none` refuses them. -/
def read : (verbose : Bool) → List String → Option Call
  | verbose, [] => some (.run verbose none)
  | verbose, arg :: rest =>
    if arg = "rewrite" then
      ofSubcommand verbose (Subcommand.read Subcommand.queriesKind? Subcommand.queriesOf rest)
    else if arg = "request" then
      ofSubcommand verbose (Subcommand.read Subcommand.manifestsKind? Subcommand.manifestsOf rest)
    else if arg = "help" then readHelp rest
    else if arg = "--" then if rest.isEmpty then some (.run verbose none) else none
    else if arg = "--help" then some .help
    else if arg = "--version" then some .version
    else if arg = "--verbose" then if verbose then none else read true rest
    else if Given.looksLikeOption arg && !arg.startsWith "--" then
      match readFlags (arg.toList.drop 1) verbose with
      | none => none
      | some (.inl call) => some call
      | some (.inr verbose) => read verbose rest
    else none

end Call

end Refetch
