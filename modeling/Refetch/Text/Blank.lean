import Refetch.Text.Ranges

/-!
# Blank characters

Which characters count as blank (the 25 code points with the White_Space property), and
`collapse`, which turns every run of them into a single space. A run at either end of the
text collapses like any other, so the result is never trimmed.

* `collapse_idem` — collapsing a collapsed text changes nothing
* `collapse_filter` — the characters that are not blank survive, in their order
-/

namespace Refetch.Text

/-- The code points with the White_Space property, as closed ranges in increasing order. -/
def blankRanges : List (Nat × Nat) :=
  [(0x09, 0x0d), (0x20, 0x20), (0x85, 0x85), (0xa0, 0xa0), (0x1680, 0x1680),
   (0x2000, 0x200a), (0x2028, 0x2029), (0x202f, 0x202f), (0x205f, 0x205f), (0x3000, 0x3000)]

theorem ascendFrom_blankRanges : ascendFrom 0 blankRanges := by decide

/-- Does the character have the White_Space property? -/
def isBlank (c : Char) : Bool := inRanges blankRanges c

/-- The printing characters of ASCII are not blank. -/
theorem isBlank_of_printing {c : Char} (hlow : 0x21 ≤ c.toNat) (hhigh : c.toNat ≤ 0x7e) :
    isBlank c = false :=
  inRanges_eq_false_of_between ascendFrom_blankRanges (by decide) hlow hhigh

@[simp] theorem isBlank_space : isBlank ' ' = true := by decide

/-! ## Collapsing -/

/-- Collapses the characters still to come; `inRun` says whether the character before them
was blank, in which case a leading blank has been written already. -/
def collapseFrom (inRun : Bool) : List Char → List Char
  | [] => []
  | c :: rest =>
    if isBlank c then
      if inRun then collapseFrom true rest else ' ' :: collapseFrom true rest
    else
      c :: collapseFrom false rest

section CollapseFrom

variable {c : Char} {rest : List Char} {inRun : Bool}

/-- A blank leaves a space behind if it starts a run, and nothing if it goes on with one. -/
theorem collapseFrom_blank (hc : isBlank c = true) :
    collapseFrom inRun (c :: rest) =
      if inRun then collapseFrom true rest else ' ' :: collapseFrom true rest := by
  rw [collapseFrom, if_pos hc]

/-- A character that is no blank is kept and ends the run. -/
theorem collapseFrom_other (hc : isBlank c = false) :
    collapseFrom inRun (c :: rest) = c :: collapseFrom false rest := by
  rw [collapseFrom, if_neg (by simp [hc])]

end CollapseFrom

/-- Turns every run of blank characters into one space. -/
def collapseChars (text : List Char) : List Char := collapseFrom false text

/-- Turns every run of blank characters of a text into one space. -/
def collapse (text : String) : String := .ofList (collapseChars text.toList)

@[simp] theorem toList_collapse (text : String) :
    (collapse text).toList = collapseChars text.toList := by
  simp [collapse]

/-- Of a text that is not empty something is left: at least a space. -/
theorem collapse_eq_empty_iff {text : String} : collapse text = "" ↔ text = "" := by
  rw [← String.toList_inj, toList_collapse, ← String.toList_inj, collapseChars]
  cases text.toList with
  | nil => simp [collapseFrom]
  | cons c rest =>
    by_cases hc : isBlank c = true <;> simp [collapseFrom, hc]

theorem collapseFrom_idem (text : List Char) (inRun : Bool) :
    collapseFrom inRun (collapseFrom inRun text) = collapseFrom inRun text := by
  induction text generalizing inRun with
  | nil => rfl
  | cons c rest ih =>
    by_cases hc : isBlank c = true
    · cases inRun with
      | true => simp only [collapseFrom, hc, if_true, ih]
      | false => simp [collapseFrom, hc, ih]
    · simp [collapseFrom, hc, ih]

/-- Collapsing twice is collapsing once. -/
theorem collapse_idem (text : String) : collapse (collapse text) = collapse text := by
  simp only [collapse, String.toList_ofList, collapseChars, collapseFrom_idem]

theorem collapseFrom_filter (text : List Char) (inRun : Bool) :
    (collapseFrom inRun text).filter (!isBlank ·) = text.filter (!isBlank ·) := by
  induction text generalizing inRun with
  | nil => rfl
  | cons c rest ih =>
    by_cases hc : isBlank c = true
    · cases inRun <;> simp [collapseFrom, hc, ih]
    · simp [collapseFrom, hc, ih]

/-- Collapsing keeps every character that is no blank, in order. -/
theorem collapse_filter (text : String) :
    (collapse text).toList.filter (!isBlank ·) = text.toList.filter (!isBlank ·) := by
  rw [toList_collapse, collapseChars, collapseFrom_filter]

/-- A collapsed text holds spaces, and characters of the text that are not blank. -/
theorem mem_collapseFrom {c : Char} {text : List Char} {inRun : Bool}
    (h : c ∈ collapseFrom inRun text) : c = ' ' ∨ (c ∈ text ∧ isBlank c = false) := by
  by_cases hc : isBlank c = true
  · left
    induction text generalizing inRun with
    | nil => exact absurd h List.not_mem_nil
    | cons d rest ih =>
      rw [collapseFrom] at h
      split at h
      · cases inRun with
        | true => exact ih h
        | false => exact (List.mem_cons.mp h).elim id ih
      · rename_i hd
        rcases List.mem_cons.mp h with rfl | h
        · exact absurd hc hd
        · exact ih h
  · right
    have hfilter : c ∈ (collapseFrom inRun text).filter (!isBlank ·) :=
      List.mem_filter.mpr ⟨h, by simp [hc]⟩
    rw [collapseFrom_filter] at hfilter
    exact ⟨(List.mem_filter.mp hfilter).1, by simpa using hc⟩

/-- The only blank of a collapsed text is the space. -/
theorem eq_space_of_mem_collapseChars {c : Char} {text : List Char} (h : c ∈ collapseChars text)
    (hc : isBlank c = true) : c = ' ' := by
  rcases mem_collapseFrom h with rfl | ⟨-, hother⟩
  · rfl
  · rw [hother] at hc
    cases hc

end Refetch.Text
