import Refetch.Proofs.Document.Building

/-!
# Filled documents

A set in braces holds a selection at least: that is what the grammar demands of definitions
and of fragments in place, and what a field may do without. A document of which this holds is
filled; every document that is read is.

* `selections_induction` — induction on selections and what is below them
* `Document.filled_of_parse` — what is read is filled
-/

namespace Refetch

/-- The selections directly below a selection; none below a leaf or a spread. -/
def Selection.items : Selection → List Selection
  | .field _ _ items => items
  | .spread .. => []
  | .inline _ _ _ _ items => items

mutual

/-- Induction on the sets below a selection: an empty one, and one more selection with what is below
it. -/
theorem Selection.items_induction {motive : List Selection → Prop} (nil : motive [])
    (cons : ∀ (item : Selection) (rest : List Selection),
      motive item.items → motive rest → motive (item :: rest)) (item : Selection) :
    motive item.items := by
  cases item with
  | field head span items => exact selections_induction nil cons items
  | spread pos name dirs => exact nil
  | inline pos on? dirs span items => exact selections_induction nil cons items

/-- What holds of no selections, and of one more if it holds of what is below that one and of the
others, holds of all selections. -/
theorem selections_induction {motive : List Selection → Prop} (nil : motive [])
    (cons : ∀ (item : Selection) (rest : List Selection),
      motive item.items → motive rest → motive (item :: rest)) (items : List Selection) :
    motive items := by
  cases items with
  | nil => exact nil
  | cons item rest =>
    exact cons item rest (item.items_induction nil cons) (selections_induction nil cons rest)

end

mutual

/-- No fragment in place at or below the selection is empty. -/
def Selection.Filled : Selection → Prop
  | .field _ _ items => SelectionsFilled items
  | .spread .. => True
  | .inline _ _ _ _ items => items ≠ [] ∧ SelectionsFilled items

/-- No fragment in place among the selections or below them is empty. -/
def SelectionsFilled : List Selection → Prop
  | [] => True
  | item :: rest => item.Filled ∧ SelectionsFilled rest

end

/-- Every definition, and every fragment in place at any depth, holds a selection. -/
def Document.Filled (d : Document) : Prop :=
  ∀ definition ∈ d.definitions,
    definition.body.items ≠ [] ∧ SelectionsFilled definition.body.items

theorem selectionsFilled_iff {items : List Selection} :
    SelectionsFilled items ↔ ∀ item ∈ items, item.Filled := by
  induction items with
  | nil => simp [SelectionsFilled]
  | cons item rest ih => rw [SelectionsFilled, ih, List.forall_mem_cons]

theorem Selection.Filled.items_filled {item : Selection} (h : item.Filled) :
    SelectionsFilled item.items := by
  cases item with
  | field head span items =>
    rw [Selection.Filled] at h
    exact h
  | spread pos name dirs =>
    exact selectionsFilled_iff.mpr fun item hmem => absurd hmem List.not_mem_nil
  | inline pos on? dirs span items =>
    rw [Selection.Filled] at h
    exact h.2

/-- What the grammar builds of filled selections is filled. -/
theorem Selection.built_filled : Grammar.Built Selection.Filled where
  leaf head span := by
    rw [Selection.Filled, SelectionsFilled]
    trivial
  field head span items _ h := by
    rw [Selection.Filled]
    exact selectionsFilled_iff.mpr h
  spread pos name dirs := by
    rw [Selection.Filled]
    trivial
  inline pos on? dirs span items _ hne h := by
    rw [Selection.Filled]
    exact ⟨hne, selectionsFilled_iff.mpr h⟩

/-- A document that is read is filled. -/
theorem Document.filled_of_parse {text : String} {d : Document}
    (h : Document.parse text = .ok d) : d.Filled := by
  intro definition hmem
  obtain ⟨-, hne, hitems⟩ := Document.built_of_parse Selection.built_filled h definition hmem
  exact ⟨hne, selectionsFilled_iff.mpr hitems⟩

end Refetch
