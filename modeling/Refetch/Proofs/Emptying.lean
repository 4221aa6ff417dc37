import Mathlib
import Refetch.Document.Printer
import Refetch.Proofs.OnePass
import Refetch.Proofs.Document.Filled

/-!
# Emptied selection sets

Leaving out derived fields can leave a set of braces with nothing in it. Narrowing refuses a
root field without children so that the query for the re-fetch can be read, but derived fields
are left out afterwards, and nothing looks at the sets again.

A selection is lasting if it is not a derived field. What is below an item that is left out is
left out with it, so only the sets below surviving items count, and each of these is emptied
exactly if nothing in it is lasting.

* `tidySelections_filled` — sets that hold something lasting stay filled at every depth
* `Adapter.adaptDocument_filled_iff` — exactly when adapting empties no set
-/

namespace Refetch

/-- Does a set hold a selection that is not a derived field? -/
def HasLasting (rule : DerivedRule) (items : List Selection) : Prop :=
  ∃ item ∈ items, item.isDerivedField rule = false

/-- The item is among the selections or below them, and neither it nor anything above it is a
derived field. -/
inductive Survives (rule : DerivedRule) : List Selection → Selection → Prop where
  /-- an item of the selections themselves -/
  | top {items : List Selection} {item : Selection} (hmem : item ∈ items)
      (hlasting : item.isDerivedField rule = false) : Survives rule items item
  /-- an item somewhere below one of them -/
  | inside {items : List Selection} {outer item : Selection} (hmem : outer ∈ items)
      (hlasting : outer.isDerivedField rule = false)
      (hinside : Survives rule outer.items item) : Survives rule items item

/-- Below the selections, every set of a surviving item holds something lasting, unless it was
empty. -/
def Sustained (rule : DerivedRule) (items : List Selection) : Prop :=
  ∀ item, Survives rule items item → item.items ≠ [] → HasLasting rule item.items

/-- Every definition holds something lasting, and so does every set of a surviving item. -/
def Document.Sustains (d : Document) (rule : DerivedRule) : Prop :=
  ∀ definition ∈ d.definitions,
    HasLasting rule definition.body.items ∧ Sustained rule definition.body.items

/-! ## What tidying keeps -/

section Tidied

variable {rule : DerivedRule} {p : TypePrefix} {items rest : List Selection} {item : Selection}

/-- A set is not emptied exactly if it holds something lasting. -/
theorem tidySelections_ne_nil_iff : tidySelections rule p items ≠ [] ↔ HasLasting rule items := by
  rw [tidySelections_eq_map, ne_eq, List.map_eq_nil_iff, List.filter_eq_nil_iff]
  simp [HasLasting]

theorem Selection.items_tidy : (item.tidy rule p).items = tidySelections rule p item.items := by
  cases item with
  | field head span items => rw [Selection.tidy, Selection.items, Selection.items]
  | spread pos name dirs => rw [Selection.tidy, Selection.items, tidySelections]
  | inline pos on? dirs span items => rw [Selection.tidy, Selection.items, Selection.items]

theorem Sustained.tail (h : Sustained rule (item :: rest)) : Sustained rule rest := by
  rintro inner (⟨hmem, hlasting⟩ | ⟨hmem, hlasting, hinside⟩)
  · exact h inner (.top (List.mem_cons_of_mem _ hmem) hlasting)
  · exact h inner (.inside (List.mem_cons_of_mem _ hmem) hlasting hinside)

theorem Sustained.below (h : Sustained rule items) (hmem : item ∈ items)
    (hlasting : item.isDerivedField rule = false) : Sustained rule item.items :=
  fun inner hinner => h inner (.inside hmem hlasting hinner)

mutual

/-- A filled selection stays filled if something lasts wherever something was. -/
theorem Selection.tidy_filled (p : TypePrefix) (item : Selection) (hfilled : item.Filled)
    (hown : item.items ≠ [] → HasLasting rule item.items) (hbelow : Sustained rule item.items) :
    (item.tidy rule p).Filled := by
  cases item with
  | field head span items =>
    rw [Selection.Filled] at hfilled
    rw [Selection.tidy, Selection.Filled]
    exact tidySelections_filled p items hfilled hbelow
  | spread pos name dirs => rw [Selection.tidy, Selection.Filled]; trivial
  | inline pos on? dirs span items =>
    rw [Selection.Filled] at hfilled
    rw [Selection.tidy, Selection.Filled]
    exact ⟨tidySelections_ne_nil_iff.mpr (hown hfilled.1),
      tidySelections_filled p items hfilled.2 hbelow⟩

/-- Where every set of a surviving item holds something lasting, no fragment in place is
emptied. -/
theorem tidySelections_filled (p : TypePrefix) (items : List Selection)
    (hfilled : SelectionsFilled items) (h : Sustained rule items) :
    SelectionsFilled (tidySelections rule p items) := by
  cases items with
  | nil => rwa [tidySelections]
  | cons item rest =>
    rw [SelectionsFilled] at hfilled
    obtain ⟨hitem, hrest⟩ := hfilled
    have ihrest := tidySelections_filled p rest hrest h.tail
    rw [tidySelections]
    cases hderived : item.isDerivedField rule with
    | true => exact ihrest
    | false =>
      -- the item survives, so its own set is one of those that hold something lasting
      have hmem : item ∈ item :: rest := List.mem_cons_self ..
      have hown := h item (.top hmem hderived)
      rw [if_neg Bool.false_ne_true, SelectionsFilled]
      exact ⟨Selection.tidy_filled p item hitem hown (h.below hmem hderived), ihrest⟩

end

end Tidied

/-! ## Adapted documents -/

/-- Narrowing leaves no set empty: the children that take the place of the first definition's
selections are one or more. -/
theorem Document.Narrows.filled {d narrowed : Document} {root : String}
    (h : d.Narrows root narrowed) (hfilled : d.Filled) : narrowed.Filled := by
  rcases h with ⟨-, rfl⟩ | ⟨-, first, others, set, hd, hset, hne, rfl⟩
  · exact hfilled
  · obtain ⟨before, head, after, hitems, -, -⟩ := hset
    have hfirst := hfilled first (by rw [hd]; exact List.mem_cons_self ..)
    have hfield := selectionsFilled_iff.mp hfirst.2 (.field head set.span set.items)
      (by rw [hitems]; exact List.mem_append_right _ (List.mem_cons_self ..))
    intro definition hmem
    rcases List.mem_cons.mp hmem with rfl | hmem
    · exact ⟨hne, hfield.items_filled⟩
    · exact hfilled definition (by rw [hd]; exact List.mem_cons_of_mem _ hmem)

/-- Exactly when adapting a document that was read empties no set: when each definition of the
narrowed document, and each surviving item in it that has selections, has one that is
lasting. -/
theorem Adapter.adaptDocument_filled_iff (a : Adapter) {text : String} {d o : Document}
    (hread : Document.parse text = .ok d) (hadapted : a.adaptDocument d = .adapted o) :
    ∃ narrowed, d.Narrows a.rootField narrowed ∧ o = narrowed.tidy a.rule a.typePrefix ∧
      ((o.Filled ∧ ∀ definition ∈ narrowed.definitions, ∀ item,
          Survives a.rule definition.body.items item → item.items ≠ [] →
            (item.tidy a.rule a.typePrefix).items ≠ []) ↔
        narrowed.Sustains a.rule) := by
  obtain ⟨narrowed, hnarrows, rfl⟩ := Adapter.adaptDocument_eq_adapted_iff.mp hadapted
  have hfilled := hnarrows.filled (Document.filled_of_parse hread)
  refine ⟨narrowed, hnarrows, rfl, ?_, ?_⟩
  · rintro ⟨ho, hkept⟩ definition hmem
    constructor
    · have htidied := ho _ (List.mem_map_of_mem hmem)
      exact tidySelections_ne_nil_iff.mp htidied.1
    · intro item hsurvives hne
      have hitem := hkept definition hmem item hsurvives hne
      rw [Selection.items_tidy] at hitem
      exact tidySelections_ne_nil_iff.mp hitem
  · intro hsustains
    constructor
    · intro tidied hmem
      obtain ⟨definition, hdefinition, rfl⟩ := List.mem_map.mp hmem
      obtain ⟨hlasting, hsustained⟩ := hsustains definition hdefinition
      exact ⟨tidySelections_ne_nil_iff.mpr hlasting,
        tidySelections_filled _ _ (hfilled definition hdefinition).2 hsustained⟩
    · intro definition hmem item hsurvives hne
      rw [Selection.items_tidy]
      exact tidySelections_ne_nil_iff.mpr ((hsustains definition hmem).2 item hsurvives hne)

/-- A leaf of this name at a column of the first line. -/
def leafAt (column : Nat) (name : String) : Selection :=
  .field ⟨⟨1, column⟩, none, name, [], []⟩ ⟨⟨1, column⟩, ⟨1, column⟩⟩ []

/-- A root field with a lasting child and a derived one: the query for the re-fetch holds a
selection. -/
theorem Adapter.adaptDocument_filled_of_lasting_child :
    ∃ d o, Document.parse "{page{title heroSharp}}" = .ok d ∧
      (configured .default "page" "").adaptDocument d = .adapted o ∧ o.Filled := by
  let items : List Selection := [leafAt 7 "title", leafAt 13 "heroSharp"]
  let page : Selection := .field ⟨⟨1, 2⟩, none, "page", [], []⟩ ⟨⟨1, 6⟩, ⟨1, 22⟩⟩ items
  let d : Document := ⟨[⟨.bare, ⟨⟨1, 1⟩, ⟨1, 23⟩⟩, [page]⟩]⟩
  let o : Document := ⟨[⟨.bare, ⟨⟨1, 6⟩, ⟨1, 22⟩⟩, [leafAt 7 "title"]⟩]⟩
  have hread : Document.parse "{page{title heroSharp}}" = .ok d := by cbv
  have hadapted : (configured .default "page" "").adaptDocument d = .adapted o :=
    adaptDocument_eq_adapted_iff.mpr ⟨_, Document.isolate_eq_ok_iff.mp rfl, rfl⟩
  obtain ⟨narrowed, hnarrows, -, hiff⟩ := adaptDocument_filled_iff _ hread hadapted
  obtain rfl : ⟨[⟨.bare, ⟨⟨1, 6⟩, ⟨1, 22⟩⟩, items⟩]⟩ = narrowed :=
    Except.ok.inj (Document.isolate_eq_ok_iff.mpr hnarrows)
  refine ⟨d, o, hread, hadapted, (hiff.mpr fun definition hmem => ?_).1⟩
  obtain rfl := List.mem_singleton.mp hmem
  -- both children are leaves, so the set itself is the only one that could be emptied
  have hleaves : ∀ item ∈ items, item.items = [] := by simp [items, leafAt, Selection.items]
  refine ⟨⟨leafAt 7 "title", List.mem_cons_self .., by decide⟩, ?_⟩
  rintro item (⟨hmem, -⟩ | ⟨hmem, -, hinside⟩) hne
  · exact absurd (hleaves item hmem) hne
  · rw [hleaves _ hmem] at hinside
    rcases hinside with ⟨hmem, -⟩ | ⟨hmem, -, -⟩ <;> cases hmem

theorem parse_empty_braces : ∃ e, Document.parse "\x7b\n\x7d\n" = .error e := ⟨_, by cbv⟩

/-- A root field whose only child is a derived field: it has a child and is not refused, but the
query for the re-fetch has nothing between its braces, and as printed cannot be read. -/
theorem Adapter.adaptDocument_not_filled :
    ∃ d o, Document.parse "{page{heroSharp}}" = .ok d ∧
      (configured .default "page" "").adaptDocument d = .adapted o ∧ ¬ o.Filled ∧
        ∃ e, Document.parse o.print = .error e := by
  let page : Selection :=
    .field ⟨⟨1, 2⟩, none, "page", [], []⟩ ⟨⟨1, 6⟩, ⟨1, 16⟩⟩ [leafAt 7 "heroSharp"]
  let d : Document := ⟨[⟨.bare, ⟨⟨1, 1⟩, ⟨1, 17⟩⟩, [page]⟩]⟩
  let o : Document := ⟨[⟨.bare, ⟨⟨1, 6⟩, ⟨1, 16⟩⟩, []⟩]⟩
  have hread : Document.parse "{page{heroSharp}}" = .ok d := by cbv
  have hadapted : (configured .default "page" "").adaptDocument d = .adapted o :=
    adaptDocument_eq_adapted_iff.mpr ⟨_, Document.isolate_eq_ok_iff.mp rfl, rfl⟩
  have hempty : ¬ o.Filled := fun hfilled => (hfilled _ (List.mem_cons_self ..)).1 rfl
  have hprint : o.print = "\x7b\n\x7d\n" := by decide
  exact ⟨d, o, hread, hadapted, hempty, by rw [hprint]; exact parse_empty_braces⟩

end Refetch
