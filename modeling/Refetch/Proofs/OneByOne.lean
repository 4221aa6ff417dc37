import Mathlib.Data.List.Forall2

/-!
# One by one

The members of a row are taken one by one, by a step that may fail. If it fails for none, there is a
result for each, in order; if it fails for some, the first of them is what is reported, and those
behind it are not looked at.

* `exceptMapM_eq_ok_iff`, `exceptMapM_eq_error_iff` — the results, and the first error
* `exists_forall₂_iff` — there are results if and only if there is one for each
-/

namespace Refetch

variable {α β ε : Type} {f : α → Except ε β} {a : α} {as : List α} {bs : List β} {e : ε}

theorem exceptMapM_cons_of_ok {b : β} (h : f a = .ok b) :
    (a :: as).mapM f = (as.mapM f).map (b :: ·) := by
  rw [List.mapM_cons, h]
  rfl

/-- Where the first row fails the others are not looked at. -/
theorem exceptMapM_cons_of_error (h : f a = .error e) : (a :: as).mapM f = .error e := by
  rw [List.mapM_cons, h]
  rfl

theorem exceptMap_eq_ok_iff {g : α → β} {x : Except ε α} {b : β} :
    x.map g = .ok b ↔ ∃ a, x = .ok a ∧ g a = b := by
  cases x <;> simp [Except.map]

theorem exceptMap_eq_error_iff {g : α → β} {x : Except ε α} :
    x.map g = .error e ↔ x = .error e := by
  cases x <;> simp [Except.map]

/-- Rows succeed together when each does, with the results in order. -/
theorem exceptMapM_eq_ok_iff :
    as.mapM f = .ok bs ↔ List.Forall₂ (fun a b => f a = .ok b) as bs := by
  induction as generalizing bs with
  | nil =>
    rw [List.forall₂_nil_left_iff, List.mapM_nil]
    constructor
    · rintro ⟨⟩
      rfl
    · rintro rfl
      rfl
  | cons a rest ih =>
    rw [List.forall₂_cons_left_iff]
    cases h : f a with
    | ok b =>
      rw [exceptMapM_cons_of_ok h, exceptMap_eq_ok_iff]
      simp [ih, eq_comm]
    | error e =>
      rw [exceptMapM_cons_of_error h]
      simp

/-- What fails is the first that fails by itself, and with its own error. -/
theorem exceptMapM_eq_error_iff :
    as.mapM f = .error e ↔
      ∃ front first rest, as = front ++ first :: rest ∧ (∀ a ∈ front, ∃ b, f a = .ok b) ∧
        f first = .error e := by
  induction as with
  | nil =>
    rw [List.mapM_nil]
    exact iff_of_false nofun fun ⟨front, first, rest, hnil, _⟩ => by simp at hnil
  | cons a as ih =>
    cases h : f a with
    | ok b =>
      rw [exceptMapM_cons_of_ok h, exceptMap_eq_error_iff, ih]
      constructor
      · rintro ⟨front, first, rest, rfl, hfront, hfirst⟩
        exact ⟨a :: front, first, rest, rfl, List.forall_mem_cons.mpr ⟨⟨b, h⟩, hfront⟩, hfirst⟩
      · rintro ⟨_ | ⟨own, front⟩, first, rest, ⟨⟩, hfront, hfirst⟩
        · cases h.symm.trans hfirst
        · exact ⟨front, first, rest, rfl, (List.forall_mem_cons.mp hfront).2, hfirst⟩
    | error own =>
      rw [exceptMapM_cons_of_error h]
      constructor
      · rintro ⟨⟩
        exact ⟨[], a, as, rfl, nofun, h⟩
      · rintro ⟨_ | ⟨next, front⟩, first, rest, ⟨⟩, hfront, hfirst⟩
        · cases h.symm.trans hfirst
          rfl
        · obtain ⟨b, hb⟩ := hfront a List.mem_cons_self
          cases h.symm.trans hb

theorem exists_forall₂_iff {r : α → β → Prop} :
    (∃ bs, List.Forall₂ r as bs) ↔ ∀ a ∈ as, ∃ b, r a b := by
  induction as with
  | nil => simp
  | cons a rest ih =>
    rw [List.forall_mem_cons, ← ih]
    simp only [List.forall₂_cons_left_iff]
    constructor
    · rintro ⟨_, b, bs, hfirst, hrest, rfl⟩
      exact ⟨⟨b, hfirst⟩, bs, hrest⟩
    · rintro ⟨⟨b, hfirst⟩, bs, hrest⟩
      exact ⟨b :: bs, b, bs, hfirst, hrest, rfl⟩

end Refetch
