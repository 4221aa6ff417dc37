import Refetch.Proofs.Document.Filled

/-!
# Gathering over selections

Much of what is said of a document speaks of its selections at any depth: the fields in it, the
fragments that it includes, the variables that it uses. Each of these is gathered from what every
selection holds itself, in the order in which it is written.

* `Selection.gather_eq` — what is gathered from a selection: its own, then what is below it
* `Document.fieldNames` — the names of all fields
-/

namespace Refetch

variable {α : Type}

mutual

/-- What a selection holds, and after it what those below it hold, by what each of them holds
itself. -/
def Selection.gather (own : Selection → List α) : Selection → List α
  | .field head span items => own (.field head span items) ++ selectionsGather own items
  | .spread pos name dirs => own (.spread pos name dirs)
  | .inline pos on? dirs span items =>
    own (.inline pos on? dirs span items) ++ selectionsGather own items

/-- What some selections hold, each with those below it. -/
def selectionsGather (own : Selection → List α) : List Selection → List α
  | [] => []
  | item :: rest => item.gather own ++ selectionsGather own rest

end

@[simp] theorem selectionsGather_nil (own : Selection → List α) : selectionsGather own [] = [] := by
  rw [selectionsGather]

@[simp] theorem selectionsGather_cons (own : Selection → List α) (item : Selection)
    (rest : List Selection) :
    selectionsGather own (item :: rest) = item.gather own ++ selectionsGather own rest := by
  rw [selectionsGather]

/-- What two sets gather together is what each gathers, one after the other. -/
theorem selectionsGather_append (own : Selection → List α) (items others : List Selection) :
    selectionsGather own (items ++ others) =
      selectionsGather own items ++ selectionsGather own others := by
  induction items with
  | nil => simp
  | cons item rest ih => simp [ih]

/-- A selection gathers what it gives itself, then what those below it give. -/
theorem Selection.gather_eq (own : Selection → List α) (item : Selection) :
    item.gather own = own item ++ selectionsGather own item.items := by
  cases item <;> simp [Selection.gather, Selection.items]

/-! ## Fields -/

/-- The name of a field; other selections have none. -/
def Selection.fieldName? : Selection → Option String
  | .field head _ _ => some head.name
  | _ => none

/-- The names of the fields in and below some selections. -/
def selectionsFieldNames (items : List Selection) : List String :=
  selectionsGather (fun item => item.fieldName?.toList) items

/-- The names of all fields, at any depth of any definition. -/
def Document.fieldNames (d : Document) : List String :=
  d.definitions.flatMap fun definition => selectionsFieldNames definition.body.items

@[simp] theorem selectionsFieldNames_nil : selectionsFieldNames [] = [] := selectionsGather_nil _

/-- Field names are listed in the order they are written, a field's own before those below it. -/
@[simp] theorem selectionsFieldNames_cons (item : Selection) (rest : List Selection) :
    selectionsFieldNames (item :: rest) =
      item.fieldName?.toList ++ (selectionsFieldNames item.items ++ selectionsFieldNames rest) := by
  simp [selectionsFieldNames, Selection.gather_eq]

end Refetch
