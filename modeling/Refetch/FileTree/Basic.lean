/-!
# File trees

A tree of directories, files and symbolic links with a working directory in it, and what a
path leads to. A `Location` names a node without links, `.` or `..`; a path is text, read
from the working directory unless it starts with a slash, with links followed on the way.
A file may be there and yet not be read, and a directory not be opened, if the system does not
allow it or their medium fails.
-/

namespace Refetch

/-- A node of a file tree. -/
inductive Node where
  /-- a file, by its bytes -/
  | file (bytes : List UInt8)
  /-- a file that cannot be read, by what the system says of it -/
  | unreadable (reason : String)
  /-- a link, by the path it holds -/
  | link (target : String)
  /-- a directory, by its entries -/
  | directory (entries : List (String × Node))
  /-- a directory that cannot be opened, by what the system says of it -/
  | closed (reason : String)
  deriving Inhabited

/-- The names from a node up to the root, the node's own first. -/
abbrev Location := List String

/-- Directories, files and links, and where one stands. -/
structure FileTree where
  /-- the root directory -/
  root : Node
  /-- the working directory -/
  here : Location
  deriving Inhabited

/-- Why a path leads nowhere. -/
inductive AccessError where
  /-- a name on the way does not exist -/
  | missing
  /-- a name on the way is no directory -/
  | notDirectory
  /-- there are more links on the way than may be followed -/
  | tooManyLinks
  /-- the path, or a name on the way, has more bytes than it may have -/
  | nameTooLong
  /-- the system does not open a directory, and says why -/
  | denied (reason : String)
  deriving DecidableEq, Repr

/-- The error in words. -/
def AccessError.message : AccessError → String
  | missing => "No such file or directory (os error 2)"
  | notDirectory => "Not a directory (os error 20)"
  | tooManyLinks => "Too many levels of symbolic links (os error 40)"
  | nameTooLong => "File name too long (os error 36)"
  | denied reason => reason

namespace Node

/-- The entries of a directory; nothing else has any. -/
def entries? : Node → Option (List (String × Node))
  | directory entries => some entries
  | _ => none

/-- Is it a link? -/
def isLink : Node → Bool
  | link _ => true
  | _ => false

/-- The node of an entry, by its name. -/
def childNamed? (name : String) : List (String × Node) → Option Node
  | [] => none
  | (other, node) :: rest => if name = other then some node else childNamed? name rest

/-- Puts a node at the end of a path of names, with directories on the way; entries are kept
in the order of their names. -/
def insert (node : Node) : List String → Node → Node
  | [], _ => node
  | name :: rest, parent =>
    let entries := parent.entries?.getD []
    let child := insert node rest ((childNamed? name entries).getD (directory []))
    directory (place name child entries)
where
  /-- Puts an entry among others. -/
  place (name : String) (child : Node) : List (String × Node) → List (String × Node)
    | [] => [(name, child)]
    | (other, old) :: rest =>
      if name = other then (name, child) :: rest
      else if name < other then (name, child) :: (other, old) :: rest
      else (other, old) :: place name child rest

mutual

/-- The number of nodes. -/
def size : Node → Nat
  | file _ => 1
  | unreadable _ => 1
  | link _ => 1
  | directory entries => 1 + sizeEntries entries
  | closed _ => 1

/-- The number of nodes of some entries. -/
def sizeEntries : List (String × Node) → Nat
  | [] => 0
  | (_, node) :: rest => node.size + sizeEntries rest

end

end Node

namespace FileTree

/-- The node below another one at the end of a path of names. -/
def nodeBelow? : Node → List String → Option Node
  | node, [] => some node
  | .directory entries, name :: rest =>
    match Node.childNamed? name entries with
    | some child => nodeBelow? child rest
    | none => none
  | _, _ :: _ => none

/-- The node at a location. -/
def node? (tree : FileTree) (location : Location) : Option Node :=
  nodeBelow? tree.root location.reverse

/-! ## Paths -/

/-- The parts of a path between slashes. -/
def parts (path : String) : List String := path.splitOn "/"

/-- Where reading a path starts. -/
def startOf (origin : Location) (path : String) : Location :=
  if path.startsWith "/" then [] else origin

/-- A name has at most so many bytes. -/
def nameLimit : Nat := 255

/-- A path has fewer bytes than this. -/
def pathLimit : Nat := 4096

/-- How far the parts of a path lead before a link comes. -/
inductive Descent where
  /-- to their end -/
  | arrived (location : Location)
  /-- to a link in a directory, with parts left after it -/
  | link (directory : Location) (target : String) (rest : List String)

/-- Follows the parts of a path down to their end or to the first link. -/
def descend (tree : FileTree) : Location → List String → Except AccessError Descent
  | location, [] => .ok (.arrived location)
  | location, part :: rest =>
    match tree.node? location with
    | some (.directory entries) =>
      if part = "" || part = "." then tree.descend location rest
      else if part = ".." then tree.descend location.tail rest
      else if nameLimit < part.utf8ByteSize then .error .nameTooLong
      else
        match Node.childNamed? part entries with
        | none => .error .missing
        | some (.link target) => .ok (.link location target rest)
        | some _ => tree.descend (part :: location) rest
    | some (.closed reason) =>
      if part = "" then tree.descend location rest else .error (.denied reason)
    | some _ => .error .notDirectory
    | none => .error .missing

/-- Follows the parts of a path to their end; `count` bounds the stretches between links. -/
def follow (tree : FileTree) : (count : Nat) → Location → List String →
    Except AccessError Location
  | 0, _, _ => .error .tooManyLinks
  | count + 1, location, path =>
    match tree.descend location path with
    | .error e => .error e
    | .ok (.arrived location) => .ok location
    | .ok (.link directory target rest) =>
      tree.follow count (startOf directory target) (parts target ++ rest)

/-- A path may lead over so many links. -/
def linkLimit : Nat := 40

/-- What a path leads to. -/
def resolve (tree : FileTree) (path : String) : Except AccessError Location :=
  if path = "" then .error .missing
  else if pathLimit ≤ path.utf8ByteSize then .error .nameTooLong
  else tree.follow (linkLimit + 1) (startOf tree.here path) (parts path)

/-- Does a path end in the name of a link? -/
def endsInLink (tree : FileTree) (path : String) : Bool :=
  match (parts path).reverse with
  | [] => false
  | name :: above =>
    match tree.follow (linkLimit + 1) (startOf tree.here path) above.reverse with
    | .error _ => false
    | .ok location =>
      match (tree.node? location).bind Node.entries? with
      | none => false
      | some entries => (Node.childNamed? name entries).any Node.isLink

/-- What comes of reading the file that a path leads to, if it leads to one: the bytes, or why
they cannot be read. -/
def file? (tree : FileTree) (path : String) : Option (Except String (List UInt8)) :=
  match tree.resolve path with
  | .error _ => none
  | .ok location =>
    match tree.node? location with
    | some (.file bytes) => some (.ok bytes)
    | some (.unreadable reason) => some (.error reason)
    | _ => none

/-- Does a path lead to a file, readable or not? -/
def isFile (tree : FileTree) (path : String) : Bool := (tree.file? path).isSome

/-! ## Names -/

/-- The last name on a path, if it ends in one. -/
def fileName? (path : String) : Option String :=
  match ((parts path).filter fun part => part ≠ "" && part ≠ ".").getLast? with
  | some ".." => none
  | name? => name?

/-- What follows the last dot of the last name, unless that dot comes first. -/
def extension? (path : String) : Option String := do
  let name := (← fileName? path).toList.reverse
  match name.dropWhile (· ≠ '.') with
  | _ :: _ :: _ => some (.ofList (name.takeWhile (· ≠ '.')).reverse)
  | _ => none

/-- The path of an entry of a directory. -/
def join (path name : String) : String :=
  if path = "" || path.endsWith "/" then path ++ name else path ++ "/" ++ name

end FileTree

end Refetch
