import Refetch.Isolation

/-!
# Isolation as a relation

When a document can be narrowed to a root field, what it becomes, and why it cannot be. The
relations speak of the first definition's selections as a list that splits at the first field
of the wanted name; the function that searches for it is proved to decide them.

* `Document.isolate_eq_ok_iff` — what a narrowed document is
* `Document.isolate_eq_notFound_iff`, `Document.isolate_eq_noSelections_iff` — the two reasons
  for which there is none
-/

namespace Refetch

/-- Is the selection a field of this name? Its alias does not count. -/
def Selection.IsFieldNamed (name : String) : Selection → Prop
  | .field head _ _ => head.name = name
  | _ => False

/-- `set` holds the selections of the first field of a name among some selections: no field
before it has the name, whatever comes after it. -/
def IsFirstFieldNamed (name : String) (items : List Selection) (set : SelectionSet) : Prop :=
  ∃ before head after, items = before ++ .field head set.span set.items :: after ∧
    head.name = name ∧ ∀ item ∈ before, ¬ item.IsFieldNamed name

namespace Document

/-- There is no first definition, or none of its top-level selections is a field of this
name. -/
def LacksRoot (d : Document) (root : String) : Prop :=
  ∀ first ∈ d.definitions.head?, ∀ item ∈ first.body.items, ¬ item.IsFieldNamed root

/-- The first top-level field of this name in the first definition is a leaf. -/
def HasLeafRoot (d : Document) (root : String) : Prop :=
  ∃ first others span, d.definitions = first :: others ∧
    IsFirstFieldNamed root first.body.items ⟨span, []⟩

/-- `narrowed` is the document for a root: with no root the document itself, otherwise the
document in which the children of the first top-level field of that name, one or more, have
taken the place of the first definition's selections. -/
def Narrows (d : Document) (root : String) (narrowed : Document) : Prop :=
  (root = "" ∧ narrowed = d) ∨
    (root ≠ "" ∧ ∃ first others set, d.definitions = first :: others ∧
      IsFirstFieldNamed root first.body.items set ∧ set.items ≠ [] ∧
      narrowed = ⟨{ first with body := set } :: others⟩)

end Document

/-! ## The search -/

variable {name : String} {items rest : List Selection} {set : SelectionSet}

theorem not_isFirstFieldNamed_nil : ¬ IsFirstFieldNamed name [] set := by
  rintro ⟨before, head, after, hsplit, -⟩
  exact absurd hsplit (by simp)

/-- The first field of the name is the first selection, or that of the rest if the first
selection is not a field of the name. -/
theorem isFirstFieldNamed_cons {item : Selection} :
    IsFirstFieldNamed name (item :: rest) set ↔
      (∃ head, item = .field head set.span set.items ∧ head.name = name) ∨
        (¬ item.IsFieldNamed name ∧ IsFirstFieldNamed name rest set) := by
  constructor
  · rintro ⟨before, head, after, hsplit, hname, hbefore⟩
    cases before with
    | nil =>
      rw [List.nil_append, List.cons.injEq] at hsplit
      exact Or.inl ⟨head, hsplit.1, hname⟩
    | cons first before =>
      rw [List.cons_append, List.cons.injEq] at hsplit
      obtain ⟨rfl, hrest⟩ := hsplit
      exact Or.inr ⟨hbefore item (List.mem_cons_self ..), before, head, after, hrest, hname,
        fun other hmem => hbefore other (List.mem_cons_of_mem _ hmem)⟩
  · rintro (⟨head, rfl, hname⟩ | ⟨hitem, before, head, after, rfl, hname, hbefore⟩)
    · exact ⟨[], head, rest, rfl, hname, fun item hmem => absurd hmem (List.not_mem_nil)⟩
    · refine ⟨item :: before, head, after, rfl, hname, fun other hmem => ?_⟩
      rcases List.mem_cons.mp hmem with rfl | hmem
      · exact hitem
      · exact hbefore other hmem

/-- The search finds the first field of a name and no other. -/
theorem firstFieldNamed?_eq_some_iff :
    firstFieldNamed? name items = some set ↔ IsFirstFieldNamed name items set := by
  induction items with
  | nil => simp [firstFieldNamed?, not_isFirstFieldNamed_nil]
  | cons item rest ih =>
    rw [isFirstFieldNamed_cons]
    cases item with
    | field head span items =>
      -- a field of the name is the first one, and there is no looking further
      by_cases hname : head.name = name
      · simp only [firstFieldNamed?, Selection.IsFieldNamed, hname, if_true, not_true_eq_false,
          false_and, or_false]
        constructor
        · intro h
          obtain rfl := Option.some.inj h
          exact ⟨head, rfl, hname⟩
        · rintro ⟨head', heq, -⟩
          obtain ⟨-, rfl, rfl⟩ := Selection.field.inj heq
          rfl
      · simp only [firstFieldNamed?, Selection.IsFieldNamed, hname, if_false, ih,
          not_false_eq_true, true_and]
        constructor
        · exact Or.inr
        · rintro (⟨head', heq, hname'⟩ | h)
          · obtain ⟨rfl, -, -⟩ := Selection.field.inj heq
            exact absurd hname' hname
          · exact h
    | spread pos spread dirs => simp [firstFieldNamed?, Selection.IsFieldNamed, ih]
    | inline pos on? dirs span items => simp [firstFieldNamed?, Selection.IsFieldNamed, ih]

/-- It finds nothing exactly if no selection is a field of that name. -/
theorem firstFieldNamed?_eq_none_iff :
    firstFieldNamed? name items = none ↔ ∀ item ∈ items, ¬ item.IsFieldNamed name := by
  induction items with
  | nil => simp [firstFieldNamed?]
  | cons item rest ih =>
    cases item with
    | field head span items =>
      by_cases hname : head.name = name
      · simp [firstFieldNamed?, Selection.IsFieldNamed, hname]
      · simp [firstFieldNamed?, Selection.IsFieldNamed, hname, ih]
    | spread pos spread dirs => simp [firstFieldNamed?, Selection.IsFieldNamed, ih]
    | inline pos on? dirs span items => simp [firstFieldNamed?, Selection.IsFieldNamed, ih]

/-! ## The three outcomes

The relations of a document with a first definition are facts about what the search finds
there, so each of them decides one branch of isolating. -/

namespace Document

variable {d narrowed : Document} {root : String} {first : Definition}
  {others : List Definition}

theorem lacksRoot_nil : LacksRoot ⟨[]⟩ root := fun first hfirst => absurd hfirst (by simp)

theorem lacksRoot_cons :
    LacksRoot ⟨first :: others⟩ root ↔ firstFieldNamed? root first.body.items = none := by
  rw [firstFieldNamed?_eq_none_iff]
  simp [LacksRoot]

theorem not_hasLeafRoot_nil : ¬ HasLeafRoot ⟨[]⟩ root := by
  rintro ⟨first, others, span, hd, -⟩
  cases hd

theorem hasLeafRoot_cons :
    HasLeafRoot ⟨first :: others⟩ root ↔
      ∃ span, firstFieldNamed? root first.body.items = some ⟨span, []⟩ := by
  constructor
  · rintro ⟨first', others', span, hd, hleaf⟩
    obtain ⟨rfl, rfl⟩ := List.cons.inj hd
    exact ⟨span, firstFieldNamed?_eq_some_iff.mpr hleaf⟩
  · rintro ⟨span, hleaf⟩
    exact ⟨first, others, span, rfl, firstFieldNamed?_eq_some_iff.mp hleaf⟩

/-- Without a root field a document is narrowed to itself. -/
theorem narrows_empty_root : d.Narrows "" narrowed ↔ narrowed = d := by
  simp [Narrows]

theorem not_narrows_nil (hroot : root ≠ "") : ¬ Narrows ⟨[]⟩ root narrowed := by
  rintro (⟨rfl, -⟩ | ⟨-, first, others, set, hd, -⟩)
  · exact hroot rfl
  · cases hd

/-- Narrowing puts what is below the root field in place of the first definition's selections, if
there is something. -/
theorem narrows_cons (hroot : root ≠ "") :
    Narrows ⟨first :: others⟩ root narrowed ↔
      ∃ set, firstFieldNamed? root first.body.items = some set ∧ set.items ≠ [] ∧
        narrowed = ⟨{ first with body := set } :: others⟩ := by
  constructor
  · rintro (⟨rfl, -⟩ | ⟨-, first', others', set, hd, hset, hne, rfl⟩)
    · exact absurd rfl hroot
    · obtain ⟨rfl, rfl⟩ := List.cons.inj hd
      exact ⟨set, firstFieldNamed?_eq_some_iff.mpr hset, hne, rfl⟩
  · rintro ⟨set, hset, hne, rfl⟩
    exact Or.inr
      ⟨hroot, first, others, set, rfl, firstFieldNamed?_eq_some_iff.mp hset, hne, rfl⟩

theorem isolate_empty_root : d.isolate "" = .ok d := by
  rw [isolate, if_pos rfl]

theorem isolate_nil (hroot : root ≠ "") :
    isolate ⟨[]⟩ root = .error (.rootFieldNotFound root) := by
  rw [isolate, if_neg hroot]

/-- Isolating goes by what the search finds. -/
theorem isolate_cons (hroot : root ≠ "") :
    isolate ⟨first :: others⟩ root =
      match firstFieldNamed? root first.body.items with
      | none => .error (.rootFieldNotFound root)
      | some ⟨_, []⟩ => .error (.rootFieldHasNoSelections root)
      | some set => .ok ⟨{ first with body := set } :: others⟩ :=
  if_neg hroot

/-- A document is narrowed exactly to what the relation says. -/
theorem isolate_eq_ok_iff : d.isolate root = .ok narrowed ↔ d.Narrows root narrowed := by
  by_cases hroot : root = ""
  · subst hroot
    rw [isolate_empty_root, narrows_empty_root, Except.ok.injEq, eq_comm]
  · obtain ⟨_ | ⟨first, others⟩⟩ := d
    · simp [isolate_nil hroot, not_narrows_nil hroot]
    · rw [isolate_cons hroot, narrows_cons hroot]
      rcases firstFieldNamed? root first.body.items with _ | ⟨span, _ | ⟨item, rest⟩⟩
      · simp
      · simp
      · simp [eq_comm]

/-- No field of the wanted name is found exactly when there is none. -/
theorem isolate_eq_notFound_iff :
    d.isolate root = .error (.rootFieldNotFound root) ↔ root ≠ "" ∧ d.LacksRoot root := by
  by_cases hroot : root = ""
  · subst hroot
    simp [isolate_empty_root]
  · obtain ⟨_ | ⟨first, others⟩⟩ := d
    · simp [isolate_nil hroot, hroot, lacksRoot_nil]
    · rw [isolate_cons hroot, lacksRoot_cons]
      rcases firstFieldNamed? root first.body.items with _ | ⟨span, _ | ⟨item, rest⟩⟩ <;>
        simp [hroot]

/-- The field that is found is refused exactly when it is a leaf. -/
theorem isolate_eq_noSelections_iff :
    d.isolate root = .error (.rootFieldHasNoSelections root) ↔
      root ≠ "" ∧ d.HasLeafRoot root := by
  by_cases hroot : root = ""
  · subst hroot
    simp [isolate_empty_root]
  · obtain ⟨_ | ⟨first, others⟩⟩ := d
    · simp [isolate_nil hroot, not_hasLeafRoot_nil]
    · rw [isolate_cons hroot, hasLeafRoot_cons]
      rcases firstFieldNamed? root first.body.items with _ | ⟨span, _ | ⟨item, rest⟩⟩ <;>
        simp [hroot]

/-- There is no third reason for which a document is not narrowed. -/
theorem isolate_eq_error {reason : IsolationError} (h : d.isolate root = .error reason) :
    reason = .rootFieldNotFound root ∨ reason = .rootFieldHasNoSelections root := by
  by_cases hroot : root = ""
  · subst hroot
    simp [isolate_empty_root] at h
  · obtain ⟨_ | ⟨first, others⟩⟩ := d
    · rw [isolate_nil hroot] at h
      exact Or.inl (Except.error.inj h).symm
    · rw [isolate_cons hroot] at h
      rcases hfound : firstFieldNamed? root first.body.items with
        _ | ⟨span, _ | ⟨item, rest⟩⟩ <;> rw [hfound] at h
      · exact Or.inl (Except.error.inj h).symm
      · exact Or.inr (Except.error.inj h).symm
      · cases h

/-- Narrowing acts on the first definition, so definitions behind those of a document stay as they
are. -/
theorem isolate_append (hd : d.definitions ≠ []) (behind : List Definition) (root : String) :
    isolate ⟨d.definitions ++ behind⟩ root =
      (d.isolate root).map fun narrowed => ⟨narrowed.definitions ++ behind⟩ := by
  by_cases hroot : root = ""
  · subst hroot
    rw [isolate_empty_root, isolate_empty_root]
    rfl
  · obtain ⟨_ | ⟨first, others⟩⟩ := d
    · exact absurd rfl hd
    · rw [List.cons_append, isolate_cons hroot, isolate_cons hroot]
      rcases firstFieldNamed? root first.body.items with _ | ⟨span, _ | ⟨item, rest⟩⟩ <;> rfl

end Document

end Refetch
