import Refetch.Cli.Inputs

/-!
# Collecting input files

What is collected is what the walks come across, taken in one by one, and then perhaps a single
path that is evidently meant. A path to a file is always collected when it is the only one.

Every file that a walk comes across is collected or counted as passed over, as its extension is,
and every obstacle is kept. Where a path is taken although its extension is another, it is the one
file come across, and the one that was counted.

* `Inputs.value_collect` — what is collected, the log left out
* `Inputs.collect_of_isFile` — a single path to a file is collected, and nothing else is
* `Inputs.Accounts.foldl_add` — what is collected of a row of encounters
* `Inputs.collect_accounts` — what is collected of everything at or under some paths
-/

namespace Refetch

namespace FileTree

variable {tree : FileTree} {path : String}

/-- A walk from a file comes across that file only, whether it can be read or not. -/
theorem walk_of_isFile (h : tree.isFile path = true) : tree.walk path = [.file path] := by
  rw [isFile, file?] at h
  rw [walk]
  cases hresolve : tree.resolve path with
  | error e => simp [hresolve] at h
  | ok location =>
    rw [hresolve] at h
    cases hnode : tree.node? location with
    | none => simp [hnode] at h
    | some node =>
      cases node with
      | file bytes => simp [walkAt, hnode]
      | unreadable reason => simp [walkAt, hnode]
      | link target => simp [hnode] at h
      | directory entries => simp [hnode] at h
      | closed reason => simp [hnode] at h

end FileTree

namespace Inputs

variable {tree : FileTree} {paths extensions : List String} {path : String}

/-- What the walks from some paths find, before a path is taken because it is evidently meant. -/
def found (tree : FileTree) (paths extensions : List String) : Inputs :=
  (encounters tree paths).foldl (add (extensions.map bareExtension)) {}

/-- What is collected is what is found, unless there is a path that is evidently meant. -/
theorem value_collect (tree : FileTree) (paths extensions : List String) :
    (collect tree paths extensions).value =
      match evident? tree paths (found tree paths extensions) with
      | none => found tree paths extensions
      | some path =>
        { found tree paths extensions with
          files := [path]
          skipped := (found tree paths extensions).skipped - 1 } := by
  simp only [collect, found]
  generalize evident? tree paths _ = meant
  cases meant with
  | none => rfl
  | some path => rfl

/-- A path that is a file is all that is come across on it. -/
theorem encounters_of_isFile (h : tree.isFile path = true) :
    encounters tree [path] = [.file path] := by
  simp [encounters, FileTree.walk_of_isFile h]

/-- A single path to a file is collected whatever its extension is. -/
theorem collect_of_isFile (h : tree.isFile path = true) (extensions : List String) :
    (collect tree [path] extensions).value = { files := [path] } := by
  rw [value_collect, found, encounters_of_isFile h, List.foldl_cons, List.foldl_nil, add]
  cases isWanted (extensions.map bareExtension) path with
  | true => rfl
  | false => simp [evident?, h]

/-! ## Extensions -/

/-- Is the extension of a path one of those given, with or without dots before it? -/
def HasExtension (extensions : List String) (path : String) : Prop :=
  ∃ extension, FileTree.extension? path = some extension ∧
    ∃ given ∈ extensions, ∃ dots, given.toList = List.replicate dots '.' ++ extension.toList

/-- An extension holds no dots: it starts after the last one of its name. -/
theorem not_mem_of_extension? {extension : String}
    (h : FileTree.extension? path = some extension) : '.' ∉ extension.toList := by
  obtain ⟨name, -, h⟩ := Option.bind_eq_some_iff.mp h
  dsimp only at h
  split at h
  · obtain rfl := Option.some.inj h
    intro hmem
    rw [String.toList_ofList, List.mem_reverse] at hmem
    simpa using List.all_eq_true.mp List.all_takeWhile _ hmem
  · cases h

/-- The dots before an extension are left out, whatever their number. -/
theorem bareExtension_eq_iff {given extension : String} (h : '.' ∉ extension.toList) :
    bareExtension given = extension ↔
      ∃ dots, given.toList = List.replicate dots '.' ++ extension.toList := by
  rw [bareExtension, ← String.toList_inj, String.toList_ofList]
  constructor
  · intro hbare
    have hdots : ∀ c ∈ given.toList.takeWhile (· = '.'), c = '.' := fun c hc =>
      of_decide_eq_true (List.all_eq_true.mp List.all_takeWhile c hc)
    refine ⟨(given.toList.takeWhile (· = '.')).length, ?_⟩
    rw [← hbare, ← List.eq_replicate_of_mem hdots, List.takeWhile_append_dropWhile]
  · rintro ⟨dots, hgiven⟩
    rw [hgiven, List.dropWhile_append_of_pos (by simp)]
    cases hextension : extension.toList with
    | nil => rfl
    | cons c rest =>
      rw [hextension, List.mem_cons, not_or] at h
      exact List.dropWhile_cons_of_neg (by simpa using Ne.symm h.1)

/-- A file is wanted when it has one of the extensions, each of which may be given with a dot or
without. -/
theorem isWanted_iff :
    isWanted (extensions.map bareExtension) path = true ↔ HasExtension extensions path := by
  rw [isWanted, HasExtension]
  cases hextension : FileTree.extension? path with
  | none => simp
  | some extension =>
    have hdots := not_mem_of_extension? hextension
    simp [bareExtension_eq_iff hdots]

instance : Decidable (HasExtension extensions path) := decidable_of_iff _ isWanted_iff

/-! ## What is come across -/

/-- The path of a file. -/
def fileOf? : Encounter → Option String
  | .file path => some path
  | _ => none

/-- What keeps a walk from entering something. -/
def obstacleOf? : Encounter → Option WalkError
  | .obstacle e => some e
  | _ => none

/-- The files among what is come across, in order. -/
def filesIn (walked : List Encounter) : List String := walked.filterMap fileOf?

/-- What could not be entered of what is come across, in order. -/
def obstaclesIn (walked : List Encounter) : List WalkError := walked.filterMap obstacleOf?

theorem filesIn_concat (walked : List Encounter) (encounter : Encounter) :
    filesIn (walked ++ [encounter]) = filesIn walked ++ (fileOf? encounter).toList := by
  rw [filesIn, List.filterMap_append]
  cases encounter <;> rfl

theorem obstaclesIn_concat (walked : List Encounter) (encounter : Encounter) :
    obstaclesIn (walked ++ [encounter]) =
      obstaclesIn walked ++ (obstacleOf? encounter).toList := by
  rw [obstaclesIn, List.filterMap_append]
  cases encounter <;> rfl

/-- Of what is come across all is kept: the files that have one of the extensions, the number of
the others, and the obstacles. -/
structure Accounts (extensions : List String) (walked : List Encounter) (inputs : Inputs) :
    Prop where
  /-- the files with one of the extensions, in order -/
  files : inputs.files = (filesIn walked).filter (HasExtension extensions ·)
  /-- the number of the other files -/
  skipped :
    inputs.skipped = (filesIn walked).countP fun path => !decide (HasExtension extensions path)
  /-- the obstacles, in order -/
  errors : inputs.errors = obstaclesIn walked

namespace Accounts

variable {walked : List Encounter} {inputs : Inputs}

theorem nil : Accounts extensions [] {} := ⟨rfl, rfl, rfl⟩

/-- One step accounts for one more encounter. -/
theorem add (h : Accounts extensions walked inputs) (encounter : Encounter) :
    Accounts extensions (walked ++ [encounter])
      (inputs.add (extensions.map bareExtension) encounter) := by
  obtain ⟨hfiles, hskipped, herrors⟩ := h
  cases encounter with
  | directory path =>
    constructor <;> simpa [filesIn_concat, obstaclesIn_concat, fileOf?, obstacleOf?, Inputs.add]
  | obstacle e =>
    constructor <;>
      simpa [filesIn_concat, obstaclesIn_concat, fileOf?, obstacleOf?, Inputs.add]
  | file path =>
    rw [Inputs.add]
    by_cases hwanted : HasExtension extensions path
    · rw [if_pos (isWanted_iff.mpr hwanted)]
      constructor <;>
        simpa [filesIn_concat, obstaclesIn_concat, fileOf?, obstacleOf?, hwanted]
    · rw [if_neg fun h => hwanted (isWanted_iff.mp h)]
      constructor <;>
        simpa [filesIn_concat, obstaclesIn_concat, fileOf?, obstacleOf?, hwanted]

/-- Encounters taken one by one are all accounted for. -/
theorem foldl_add (h : Accounts extensions walked inputs) (more : List Encounter) :
    Accounts extensions (walked ++ more)
      (more.foldl (Inputs.add (extensions.map bareExtension)) inputs) := by
  induction more generalizing walked inputs with
  | nil =>
    rw [List.append_nil]
    exact h
  | cons encounter rest ih =>
    rw [List.foldl_cons, List.append_cons]
    exact ih (h.add encounter)

/-- No file is lost and none is counted twice. -/
theorem length_files_add_skipped (h : Accounts extensions walked inputs) :
    inputs.files.length + inputs.skipped = (filesIn walked).length := by
  rw [h.files, h.skipped, ← List.countP_eq_length_filter]
  simpa using (List.length_eq_countP_add_countP (HasExtension extensions ·)).symm

end Accounts

/-- What is found on the paths accounts for all that is come across there. -/
theorem accounts_found (tree : FileTree) (paths extensions : List String) :
    Accounts extensions (encounters tree paths) (found tree paths extensions) :=
  Accounts.nil.foldl_add (encounters tree paths)

/-! ## The path that is meant -/

/-- Is this path taken whatever its extension? It is a file and the only path, and no file with one
of the extensions is come across. -/
def IsMeant (tree : FileTree) (paths extensions : List String) (path : String) : Prop :=
  paths = [path] ∧ tree.isFile path = true ∧
    ∀ file ∈ filesIn (encounters tree paths), ¬ HasExtension extensions file

/-- No file is found when none that is come across has one of the extensions. -/
theorem files_found_eq_nil_iff :
    (found tree paths extensions).files = [] ↔
      ∀ file ∈ filesIn (encounters tree paths), ¬ HasExtension extensions file := by
  rw [(accounts_found tree paths extensions).files, List.filter_eq_nil_iff]
  simp

theorem evident?_eq_some_iff {inputs : Inputs} :
    evident? tree paths inputs = some path ↔
      paths = [path] ∧ tree.isFile path = true ∧ inputs.files = [] := by
  obtain ⟨files, skipped, errors⟩ := inputs
  rcases files with _ | ⟨file, files⟩
  · rcases paths with _ | ⟨only, _ | ⟨next, rest⟩⟩
    · simp [evident?]
    · by_cases honly : only = path
      · simp [evident?, honly]
      · simp [evident?, honly]
    · simp [evident?]
  · simp [evident?]

/-- A path is taken whatever its extension exactly if it is meant. -/
theorem evident?_found_eq_some_iff :
    evident? tree paths (found tree paths extensions) = some path ↔
      IsMeant tree paths extensions path := by
  rw [evident?_eq_some_iff, files_found_eq_nil_iff, IsMeant]

/-- A path that is meant is collected alone, and nothing counts as skipped. -/
theorem collect_of_isMeant (h : IsMeant tree paths extensions path) :
    (collect tree paths extensions).value = { files := [path] } ∧
      (found tree paths extensions).skipped = 1 := by
  obtain ⟨rfl, hfile, hnone⟩ := h
  refine ⟨collect_of_isFile hfile extensions, ?_⟩
  have htotal := (accounts_found tree [path] extensions).length_files_add_skipped
  rw [files_found_eq_nil_iff.mpr hnone, encounters_of_isFile hfile] at htotal
  simpa [filesIn, fileOf?] using htotal

/-- Otherwise what is found is collected. -/
theorem collect_of_not_isMeant (h : ∀ path, ¬ IsMeant tree paths extensions path) :
    (collect tree paths extensions).value = found tree paths extensions := by
  have hnone : evident? tree paths (found tree paths extensions) = none :=
    Option.eq_none_iff_forall_not_mem.mpr fun path hmem =>
      h path (evident?_found_eq_some_iff.mp hmem)
  rw [value_collect, hnone]

/-- Everything that the walks come across is accounted for. Each of the files is collected or
counted as passed over, and each of the obstacles is kept. The files collected are those with one
of the extensions, in the order of the walks, unless there is none and the only path is a file: then
it is that file, and it is no longer counted, as it was before. -/
theorem collect_accounts (tree : FileTree) (paths extensions : List String) :
    let walked := encounters tree paths
    let inputs := (collect tree paths extensions).value
    inputs.files.length + inputs.skipped = (filesIn walked).length ∧
      inputs.errors = obstaclesIn walked ∧
      ((∀ path, ¬ IsMeant tree paths extensions path) → Accounts extensions walked inputs) ∧
      ∀ path, IsMeant tree paths extensions path →
        inputs.files = [path] ∧ inputs.skipped = 0 ∧
          (found tree paths extensions).skipped = inputs.skipped + 1 := by
  intro walked inputs
  by_cases hmeant : ∃ path, IsMeant tree paths extensions path
  · obtain ⟨path, hmeant⟩ := hmeant
    obtain ⟨hvalue, hskipped⟩ := collect_of_isMeant hmeant
    obtain rfl : paths = [path] := hmeant.1
    have hwalked : walked = [.file path] := encounters_of_isFile hmeant.2.1
    have hinputs : inputs = { files := [path] } := hvalue
    rw [hwalked, hinputs, hskipped]
    refine ⟨rfl, rfl, fun hnone => absurd hmeant (hnone path), fun other hother => ?_⟩
    obtain rfl : path = other := List.head_eq_of_cons_eq hother.1
    exact ⟨rfl, rfl, rfl⟩
  · have haccounts : Accounts extensions walked inputs := by
      have hvalue : inputs = found tree paths extensions :=
        collect_of_not_isMeant fun path h => hmeant ⟨path, h⟩
      rw [hvalue]
      exact accounts_found tree paths extensions
    exact ⟨haccounts.length_files_add_skipped, haccounts.errors, fun _ => haccounts,
      fun path h => absurd ⟨path, h⟩ hmeant⟩

end Inputs

end Refetch
