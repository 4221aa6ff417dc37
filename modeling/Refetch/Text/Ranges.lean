/-!
# Ranges of characters

Classes of characters as closed ranges of code points in increasing order. The look-up stops
at the first range that begins after the character, so characters of small code points are
settled at once however long the table is.

* `inRanges_iff` — in an ascending table the look-up finds exactly the characters of its ranges
* `inRanges_eq_false_of_between` — so it finds none where the table has a gap
-/

namespace Refetch.Text

/-- Does the character lie in one of the ranges? They must ascend. -/
def inRanges : List (Nat × Nat) → Char → Bool
  | [], _ => false
  | (first, last) :: rest, c => first ≤ c.toNat && (c.toNat ≤ last || inRanges rest c)

/-- Do the ranges begin above `low`, and does each begin after the one before it ends? -/
def ascendFrom (low : Nat) : List (Nat × Nat) → Bool
  | [] => true
  | (first, last) :: rest => low ≤ first && first ≤ last && ascendFrom (last + 1) rest

/-- No range of an ascending table begins before the bound it ascends from. -/
theorem le_of_ascendFrom {low : Nat} {ranges : List (Nat × Nat)} (h : ascendFrom low ranges)
    {range : Nat × Nat} (mem : range ∈ ranges) : low ≤ range.1 := by
  induction ranges generalizing low with
  | nil => simp at mem
  | cons head rest ih =>
    simp only [ascendFrom, Bool.and_eq_true, decide_eq_true_eq] at h
    obtain ⟨⟨hlow, hhead⟩, hrest⟩ := h
    rcases List.mem_cons.mp mem with rfl | mem
    · exact hlow
    · have := ih hrest mem
      omega

/-- Looking a character up finds the range that holds it. -/
theorem inRanges_iff {low : Nat} {ranges : List (Nat × Nat)} (h : ascendFrom low ranges)
    {c : Char} :
    inRanges ranges c ↔ ∃ range ∈ ranges, range.1 ≤ c.toNat ∧ c.toNat ≤ range.2 := by
  induction ranges generalizing low with
  | nil => simp [inRanges]
  | cons head rest ih =>
    simp only [ascendFrom, Bool.and_eq_true, decide_eq_true_eq] at h
    obtain ⟨⟨_, hhead⟩, hrest⟩ := h
    simp only [inRanges, Bool.and_eq_true, Bool.or_eq_true, decide_eq_true_eq, ih hrest,
      List.mem_cons, or_and_right, exists_or, exists_eq_left]
    constructor
    · rintro ⟨hfirst, hlast | found⟩
      · exact .inl ⟨hfirst, hlast⟩
      · exact .inr found
    · rintro (⟨hfirst, hlast⟩ | ⟨range, mem, hfirst, hlast⟩)
      · exact ⟨hfirst, .inl hlast⟩
      · have := le_of_ascendFrom hrest mem
        exact ⟨by omega, .inr ⟨range, mem, hfirst, hlast⟩⟩

/-- Between two code points that no range of the table reaches into, no character is found. -/
theorem inRanges_eq_false_of_between {start low high : Nat} {ranges : List (Nat × Nat)}
    (h : ascendFrom start ranges) (hgap : ∀ range ∈ ranges, range.2 < low ∨ high < range.1)
    {c : Char} (hlow : low ≤ c.toNat) (hhigh : c.toNat ≤ high) : inRanges ranges c = false := by
  rw [← Bool.not_eq_true, inRanges_iff h]
  rintro ⟨range, hmem, hfirst, hlast⟩
  have := hgap range hmem
  omega

end Refetch.Text
