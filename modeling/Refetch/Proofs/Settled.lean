import Refetch.Proofs.Emptying
import Refetch.Proofs.TypeNames
import Refetch.Proofs.Document.Gathering

/-!
# Settled documents

A document is settled if none of its fields is derived and no type's name has the marker of the
prefix in front of something. Tidying leaves exactly the settled documents as they are, and what
it makes of a document is settled. So adapting a document that was adapted before changes nothing,
however often it is done.

* `Document.tidy_eq_self_iff` — what tidying leaves as it is
* `Document.settled_tidy` — what tidying makes is settled
* `Adapter.adaptDocument_again` — what adapting makes is adapted to itself, again and again
-/

namespace Refetch

/-! ## What tidying leaves as it is -/

theorem map_eq_self_iff {α : Type} {f : α → α} {items : List α} :
    items.map f = items ↔ ∀ item ∈ items, f item = item := by
  simpa using List.map_inj_left (f := f) (g := id) (l := items)

section Tidied

variable {rule : DerivedRule} {p : TypePrefix}

theorem TypeRef.tidy_eq_self_iff {type : TypeRef} : type.tidy p = type ↔ p.Bare type.name := by
  induction type with
  | named name => simp [TypeRef.tidy, TypeRef.name, TypePrefix.normalize_eq_self_iff]
  | list inner ih => simpa [TypeRef.tidy, TypeRef.name] using ih
  | nonNull inner ih => simpa [TypeRef.tidy, TypeRef.name] using ih

theorem VariableDef.tidy_eq_self_iff {var : VariableDef} :
    var.tidy p = var ↔ p.Bare var.type.name := by
  rw [← TypeRef.tidy_eq_self_iff]
  obtain ⟨pos, name, type, default?⟩ := var
  simp [VariableDef.tidy]

/-- Tidying leaves a head as it is when none of its types' names has a prefix left. -/
theorem Head.tidy_eq_self_iff {head : Head} :
    head.tidy p = head ↔ ∀ name ∈ head.typeNames, p.Bare name := by
  cases head with
  | bare => simp [Head.tidy, Head.typeNames]
  | operation kind pos name? vars dirs =>
    simp [Head.tidy, Head.typeNames, map_eq_self_iff, VariableDef.tidy_eq_self_iff]
  | fragment pos name on dirs =>
    simp [Head.tidy, Head.typeNames, TypePrefix.normalize_eq_self_iff]

/-- A selection that is a field goes by its name, and others stay. -/
theorem isDerivedField_eq_false_iff {item : Selection} :
    item.isDerivedField rule = false ↔ ∀ name ∈ item.fieldName?, rule.isDerived name = false := by
  cases item <;> simp [Selection.isDerivedField, Selection.fieldName?]

theorem length_tidySelections_le (rule : DerivedRule) (p : TypePrefix) (items : List Selection) :
    (tidySelections rule p items).length ≤ items.length := by
  rw [tidySelections_eq_map, List.length_map]
  exact List.length_filter_le _ _

/-- If selections stay as they are, none of them is left out. -/
theorem tidySelections_cons_eq_self_iff {item : Selection} {rest : List Selection} :
    tidySelections rule p (item :: rest) = item :: rest ↔
      item.isDerivedField rule = false ∧ item.tidy rule p = item ∧
        tidySelections rule p rest = rest := by
  rw [tidySelections]
  cases item.isDerivedField rule with
  | true =>
    have hlength : tidySelections rule p rest ≠ item :: rest := by
      intro h
      have := length_tidySelections_le rule p rest
      rw [h, List.length_cons] at this
      omega
    simpa using hlength
  | false => simp

mutual

/-- Tidying leaves a selection as it is when nothing below it is derived and no type's name in it
has a prefix left. -/
theorem Selection.tidy_eq_self_iff (item : Selection) :
    item.tidy rule p = item ↔
      (∀ name ∈ selectionsFieldNames item.items, rule.isDerived name = false) ∧
        ∀ name ∈ item.typeNames, p.Bare name := by
  cases item with
  | field head span items =>
    simp [Selection.tidy, Selection.items, Selection.typeNames, tidySelections_eq_self_iff items]
  | spread pos name dirs =>
    simp [Selection.tidy, Selection.items, Selection.typeNames]
  | inline pos on? dirs span items =>
    have hon : on?.map p.normalize = on? ↔ ∀ name ∈ on?, p.Bare name := by
      cases on? <;> simp [TypePrefix.normalize_eq_self_iff]
    simp [Selection.tidy, Selection.items, Selection.typeNames, tidySelections_eq_self_iff items,
      hon, or_imp, forall_and]
    tauto

/-- Selections stay as they are if no field in or below them is derived and all type conditions
are bare. -/
theorem tidySelections_eq_self_iff (items : List Selection) :
    tidySelections rule p items = items ↔
      (∀ name ∈ selectionsFieldNames items, rule.isDerived name = false) ∧
        ∀ name ∈ selectionsTypeNames items, p.Bare name := by
  cases items with
  | nil => simp [tidySelections, selectionsTypeNames]
  | cons item rest =>
    rw [tidySelections_cons_eq_self_iff, Selection.tidy_eq_self_iff item,
      tidySelections_eq_self_iff rest, isDerivedField_eq_false_iff]
    simp only [selectionsFieldNames_cons, selectionsTypeNames, List.forall_mem_append,
      Option.mem_toList]
    tauto

end

/-! ## What tidying makes -/

@[simp] theorem fieldName?_tidy (item : Selection) :
    (item.tidy rule p).fieldName? = item.fieldName? := by
  cases item <;> rw [Selection.tidy] <;> rfl

mutual

/-- Below a tidied selection nothing is derived. -/
theorem Selection.isDerived_below_tidy (p : TypePrefix) (item : Selection) :
    ∀ name ∈ selectionsFieldNames (item.tidy rule p).items, rule.isDerived name = false := by
  cases item with
  | field head span items =>
    rw [Selection.items_tidy]
    exact isDerived_of_mem_tidySelections p items
  | spread pos name dirs => simp [Selection.tidy, Selection.items]
  | inline pos on? dirs span items =>
    rw [Selection.items_tidy]
    exact isDerived_of_mem_tidySelections p items

/-- No field is derived that is still there when derived fields are left out at every depth. -/
theorem isDerived_of_mem_tidySelections (p : TypePrefix) (items : List Selection) :
    ∀ name ∈ selectionsFieldNames (tidySelections rule p items), rule.isDerived name = false := by
  cases items with
  | nil => simp [tidySelections]
  | cons item rest =>
    have hrest := isDerived_of_mem_tidySelections p rest
    rw [tidySelections]
    cases hderived : item.isDerivedField rule with
    | true => exact hrest
    | false =>
      have hown := isDerivedField_eq_false_iff.mp hderived
      have hbelow := Selection.isDerived_below_tidy p item
      simpa [or_imp, forall_and] using ⟨hown, hbelow, hrest⟩

end

end Tidied

namespace Document

/-- No field is derived, at any depth, and no type's name has the marker in front of anything. -/
structure Settled (rule : DerivedRule) (p : TypePrefix) (d : Document) : Prop where
  /-- no field is derived -/
  fields : ∀ name ∈ d.fieldNames, rule.isDerived name = false
  /-- no type's name has the marker in front of anything -/
  types : ∀ name ∈ d.typeNames, p.Bare name

variable {rule : DerivedRule} {p : TypePrefix} {d : Document}

theorem settled_iff :
    d.Settled rule p ↔ ∀ definition ∈ d.definitions,
      (∀ name ∈ selectionsFieldNames definition.body.items, rule.isDerived name = false) ∧
        (∀ name ∈ definition.head.typeNames, p.Bare name) ∧
          ∀ name ∈ selectionsTypeNames definition.body.items, p.Bare name := by
  constructor
  · rintro ⟨hfields, htypes⟩ definition hmem
    rw [fieldNames, List.forall_mem_flatMap] at hfields
    rw [typeNames, List.forall_mem_flatMap] at htypes
    exact ⟨hfields definition hmem, List.forall_mem_append.mp (htypes definition hmem)⟩
  · intro h
    refine ⟨?_, ?_⟩
    · rw [fieldNames, List.forall_mem_flatMap]
      exact fun definition hmem => (h definition hmem).1
    · rw [typeNames, List.forall_mem_flatMap]
      exact fun definition hmem => List.forall_mem_append.mpr (h definition hmem).2

/-- Tidying leaves the settled documents as they are, and no others. -/
theorem tidy_eq_self_iff : d.tidy rule p = d ↔ d.Settled rule p := by
  obtain ⟨definitions⟩ := d
  rw [settled_iff, tidy, mk.injEq, map_eq_self_iff]
  refine forall₂_congr fun definition _ => ?_
  obtain ⟨head, span, items⟩ := definition
  simp only [Definition.tidy, Definition.mk.injEq, SelectionSet.mk.injEq, true_and,
    Head.tidy_eq_self_iff, tidySelections_eq_self_iff]
  tauto

/-- What tidying makes is settled. -/
theorem settled_tidy (rule : DerivedRule) (p : TypePrefix) (d : Document) :
    (d.tidy rule p).Settled rule p := by
  constructor
  · simp only [fieldNames, tidy, List.flatMap_map, List.forall_mem_flatMap]
    exact fun definition _ => isDerived_of_mem_tidySelections p definition.body.items
  · rw [← normalize_strip, typeNames_normalize, List.forall_mem_map]
    exact fun name _ => p.bare_normalize name

end Document

/-! ## Adapting again -/

namespace Adapter

/-- What comes of adapting so many times, each time what came of it before. -/
def adaptTimes (a : Adapter) : Nat → Document → Outcome
  | 0, d => .adapted d
  | n + 1, d =>
    match a.adaptDocument d with
    | .skipped reason => .skipped reason
    | .adapted o => a.adaptTimes n o

/-- Without a root field, exactly the settled documents are adapted to themselves. -/
theorem adaptDocument_eq_self_iff {a : Adapter} {d : Document} (hroot : a.rootField = "") :
    a.adaptDocument d = .adapted d ↔ d.Settled a.rule a.typePrefix := by
  rw [adaptDocument_eq, hroot, Document.isolate_empty_root, ← Document.tidy_eq_self_iff]
  simp

/-- A document that is adapted to itself stays itself however often it is adapted. -/
theorem adaptTimes_eq_self {a : Adapter} {d : Document} (h : a.adaptDocument d = .adapted d)
    (n : Nat) : a.adaptTimes n d = .adapted d := by
  induction n with
  | zero => rfl
  | succ n ih =>
    rw [adaptTimes, h]
    exact ih

/-- What a document is adapted to is settled. So the same adapter without its root field adapts it
to itself, with nothing to report, and does so any number of times. -/
theorem adaptDocument_again (a : Adapter) {d o : Document} (h : a.adaptDocument d = .adapted o) :
    o.Settled a.rule a.typePrefix ∧ (a.setRootField "").adaptDocument o = .adapted o ∧
      ∀ n, ((a.setRootField "").adaptTimes n o).document? = some o ∧
        ((a.setRootField "").adaptTimes n o).diagnostics = [] := by
  obtain ⟨narrowed, -, rfl⟩ := adaptDocument_eq_adapted_iff.mp h
  have hsettled := Document.settled_tidy a.rule a.typePrefix narrowed
  have hself := (adaptDocument_eq_self_iff (a := a.setRootField "") rfl).mpr hsettled
  refine ⟨hsettled, hself, fun n => ?_⟩
  rw [adaptTimes_eq_self hself]
  exact ⟨rfl, rfl⟩

/-- A query whose types have a prefix with copies of its marker that overlap. -/
def overlappingQuery : String :=
  "query($a:[A_A_A_A_T!])\x7bpage\x7btitle heroSharp ...on A_A_A_\x7bicon\x7d\x7d\x7d"

theorem adaptDocument_overlappingQuery :
    ∃ d o, Document.parse overlappingQuery = .ok d ∧
      (configured .default "page" "A_A").adaptDocument d = .adapted o ∧
        o.typeNames = ["T", "A_"] ∧ o.fieldNames = ["title", "icon"] :=
  ⟨_, _, by cbv, by cbv, by cbv, by cbv⟩

/-- Of overlapping copies of a marker all that have something behind them are gone at once. -/
theorem adaptDocument_again_overlapping :
    ∃ d o, Document.parse overlappingQuery = .ok d ∧
      (configured .default "page" "A_A").adaptDocument d = .adapted o ∧
        o.typeNames = ["T", "A_"] ∧ o.fieldNames = ["title", "icon"] ∧
          (configured .default "" "A_A").adaptDocument o = .adapted o := by
  obtain ⟨d, o, hread, hadapted, htypes, hfields⟩ := adaptDocument_overlappingQuery
  exact ⟨d, o, hread, hadapted, htypes, hfields, (adaptDocument_again _ hadapted).2.1⟩

end Adapter

end Refetch
