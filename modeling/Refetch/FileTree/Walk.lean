import Refetch.FileTree.Basic

/-!
# Walking a file tree

Everything at or under a path: a directory before its entries, links followed. A link back to
a directory that the walk is in the middle of is an error, as is a link or a path that leads
nowhere; the walk goes on with the next entry.

What an entry is shows in its directory. Only links and directories are opened, by the whole
path that the walk took to them, so a long way with many links ends where such a path does. A
directory that cannot be opened is come across before that shows, but not over a link, which is
opened first to see whether it leads back.
-/

namespace Refetch

/-- What keeps a walk from entering something. -/
inductive WalkError where
  /-- the path leads nowhere -/
  | access (path : String) (e : AccessError)
  /-- the path leads back to a directory that holds it -/
  | loop (path ancestor : String)
  /-- the directory that a link leads to cannot be opened -/
  | refused (reason : String)
  deriving DecidableEq, Repr

/-- The error in words. -/
def WalkError.message : WalkError → String
  | access path e => "IO error for operation on " ++ path ++ ": " ++ e.message
  | loop path ancestor =>
    "File system loop found: " ++ path ++ " points to an ancestor " ++ ancestor
  | refused reason => reason

/-- What a walk comes across. -/
inductive Encounter where
  /-- a file -/
  | file (path : String)
  /-- a directory -/
  | directory (path : String)
  /-- something that cannot be entered -/
  | obstacle (e : WalkError)
  deriving DecidableEq, Repr

namespace FileTree

/-- The directories that a walk is in the middle of, the innermost first, each with the path
it was reached by. -/
abbrev Trail := List (Location × String)

/-- What keeps the directory that a path leads to from being opened, if anything does. -/
def opening? (tree : FileTree) (path : String) : Option AccessError :=
  match tree.resolve path with
  | .error e => some e
  | .ok location =>
    match tree.node? location with
    | some (.closed reason) => some (.denied reason)
    | _ => none

/-- Walks what a location holds, reached by a path, perhaps over a link. The bound is on how
deep the walk goes. -/
def walkAt (tree : FileTree) : Nat → Trail → (path : String) → (viaLink : Bool) →
    Except AccessError Location → List Encounter
  | _, _, path, _, .error e => [.obstacle (.access path e)]
  | bound, trail, path, viaLink, .ok location =>
    match tree.node? location with
    | some (.directory entries) =>
      match if viaLink then trail.find? (·.1 = location) else none with
      | some ancestor => [.obstacle (.loop path ancestor.2)]
      | none =>
        match bound with
        | 0 => []
        | bound + 1 =>
          .directory path :: match tree.opening? path with
            | some e => [.obstacle (.access path e)]
            | none => entries.flatMap fun (name, node) =>
              tree.walkAt bound ((location, path) :: trail) (join path name) node.isLink
                (if node.isLink then tree.resolve (join path name) else .ok (name :: location))
    | some (.file _) => [.file path]
    | some (.unreadable _) => [.file path]
    | some (.closed reason) =>
      if viaLink then [.obstacle (.refused reason)]
      else .directory path :: (tree.opening? path).toList.map fun e => .obstacle (.access path e)
    | _ => [.obstacle (.access path .missing)]

/-- Everything at or under a path. Between two links a walk goes no deeper than the tree, and
every link leads to a directory that it is not in the middle of, so the square of the number
of nodes bounds its depth. -/
def walk (tree : FileTree) (path : String) : List Encounter :=
  let size := tree.root.size + 1
  tree.walkAt (size * size) [] path (tree.endsInLink path) (tree.resolve path)

end FileTree

end Refetch
