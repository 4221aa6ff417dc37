import Mathlib
import Refetch.DerivedField

/-!
# The names of derived fields

A name is that of a nested child if it is something and then the nested suffix, whose first
character may have either case. The rule looks for the suffix at a byte offset, reckoned from the
sizes of the two texts. Characters that differ in ASCII case only have the same size, so the suffix
starts at that offset if the name ends with it, and where the offset lies inside a character the
name does not.

* `DerivedRule.isNestedChild_iff` — the names of nested children by their characters
* `DerivedRule.isDerived_iff` — the names of derived fields by their characters
-/

namespace Refetch

namespace DerivedRule

/-! ## Letters in either case -/

/-- The characters are the same, or they are the two cases of an ASCII letter. -/
def SameLetter (c d : Char) : Prop :=
  c = d ∨ (c.isUpper = true ∧ d.toNat = c.toNat + 32) ∨ (d.isUpper = true ∧ c.toNat = d.toNat + 32)

theorem isUpper_iff {c : Char} : c.isUpper = true ↔ 65 ≤ c.toNat ∧ c.toNat ≤ 90 := by
  simp [Char.isUpper, UInt32.le_iff_toNat_le, Char.toNat_val]

theorem toNat_toLower (c : Char) :
    c.toLower.toNat = if c.isUpper then c.toNat + 32 else c.toNat := by
  split
  · rename_i hupper
    have hrange := isUpper_iff.mp hupper
    have hvalid : (c.toNat + 32).isValidChar := Or.inl (by omega)
    rw [Char.toLower_eq_of_isUpper hupper, Char.toNat_ofNat, if_pos hvalid]
  · rename_i hupper
    rw [Char.toLower_eq_of_not_isUpper hupper]

/-- Characters are the same up to case when they are one letter of ASCII, or one character. -/
theorem sameUpToCase_iff {c d : Char} : sameUpToCase c d = true ↔ SameLetter c d := by
  rw [sameUpToCase, decide_eq_true_eq, SameLetter, ← Char.toNat_inj, ← Char.toNat_inj,
    toNat_toLower, toNat_toLower]
  split <;> split <;> simp_all [isUpper_iff] <;> omega

/-- The two cases of a letter have the same size. -/
theorem SameLetter.utf8Size_eq {c d : Char} (h : SameLetter c d) : c.utf8Size = d.utf8Size := by
  have hsmall : ∀ {c : Char}, c.toNat ≤ 127 → c.utf8Size = 1 := fun hle =>
    Char.utf8Size_eq_one_iff.mpr (UInt32.le_iff_toNat_le.mpr hle)
  rcases h with rfl | ⟨hupper, hlower⟩ | ⟨hupper, hlower⟩
  · rfl
  · have hrange := isUpper_iff.mp hupper
    rw [hsmall (by omega), hsmall (by omega)]
  · have hrange := isUpper_iff.mp hupper
    rw [hsmall (by omega), hsmall (by omega)]

/-! ## Nested children -/

/-- The name is at least one character and then the nested suffix, the first character of which
may have either case. -/
def IsNestedName (rule : DerivedRule) (name : String) : Prop :=
  ∃ front c s rest, front ≠ [] ∧ name.toList = front ++ c :: rest ∧
    rule.nestedSuffix.toList = s :: rest ∧ SameLetter c s

variable {rule : DerivedRule} {name : String}

/-- A name is a nested child's when it ends, but does not start, with the nested suffix, the case of
whose first letter does not count. -/
theorem isNestedChild_eq_true_iff {start : Nat}
    (hstart : start = Text.byteLength name.toList - Text.byteLength rule.nestedSuffix.toList) :
    rule.isNestedChild name = true ↔ start ≠ 0 ∧ ∃ c s rest,
      Text.fromByte? name.toList start = some (c :: rest) ∧
        rule.nestedSuffix.toList = s :: rest ∧ sameUpToCase c s = true := by
  rw [isNestedChild, ← hstart]
  cases Text.fromByte? name.toList start with
  | none => simp
  | some found =>
    cases found with
    | nil => simp
    | cons c tail =>
      cases rule.nestedSuffix.toList with
      | nil => simp
      | cons s rest =>
        rw [Bool.and_eq_true, decide_eq_true_eq]
        constructor
        · rintro ⟨hstart, hends⟩
          obtain ⟨hsame, htail⟩ := (Bool.and_eq_true _ _).mp hends
          obtain rfl := of_decide_eq_true htail
          exact ⟨hstart, c, s, tail, rfl, rfl, hsame⟩
        · rintro ⟨hstart, c', s', rest', hfound, hsuffix, hsame⟩
          cases hfound
          cases hsuffix
          exact ⟨hstart, by simp [hsame]⟩

/-- The names of nested children are told by their characters. -/
theorem isNestedChild_iff : rule.isNestedChild name = true ↔ rule.IsNestedName name := by
  rw [isNestedChild_eq_true_iff rfl]
  constructor
  · rintro ⟨hstart, c, s, rest, htail, hsuffix, hsame⟩
    obtain ⟨front, hname, hfront⟩ := Text.fromByte?_eq_some_iff.mp htail
    refine ⟨front, c, s, rest, ?_, hname, hsuffix, sameUpToCase_iff.mp hsame⟩
    rintro rfl
    exact hstart hfront.symm
  · rintro ⟨front, c, s, rest, hne, hname, hsuffix, hletter⟩
    -- the two ends have the same size, so the offset is the size of what is in front of them
    have hstart : Text.byteLength name.toList - Text.byteLength rule.nestedSuffix.toList =
        Text.byteLength front := by
      rw [hname, hsuffix, Text.byteLength_append, Text.byteLength_cons, Text.byteLength_cons,
        hletter.utf8Size_eq]
      omega
    rw [hstart]
    exact ⟨(Text.byteLength_pos hne).ne', c, s, rest,
      Text.fromByte?_eq_some_iff.mpr ⟨front, hname, rfl⟩, hsuffix, sameUpToCase_iff.mpr hletter⟩

/-- The name of a nested child ends with something that has the size of the nested suffix. -/
theorem IsNestedName.exists_end (h : rule.IsNestedName name) :
    ∃ front c rest, name.toList = front ++ c :: rest ∧
      Text.byteLength (c :: rest) = Text.byteLength rule.nestedSuffix.toList := by
  obtain ⟨front, c, s, rest, -, hname, hsuffix, hletter⟩ := h
  refine ⟨front, c, rest, hname, ?_⟩
  rw [hsuffix, Text.byteLength_cons, Text.byteLength_cons, hletter.utf8Size_eq]

/-- Where the offset lies inside a character, the name is not that of a nested child. -/
theorem not_isNestedName_of_inside {front behind : List Char} {c : Char}
    (hname : name.toList = front ++ c :: behind)
    (hlt : Text.byteLength behind < Text.byteLength rule.nestedSuffix.toList)
    (hgt : Text.byteLength rule.nestedSuffix.toList < Text.byteLength (c :: behind)) :
    ¬ rule.IsNestedName name := by
  intro h
  obtain ⟨front', c', rest, hname', hsize⟩ := h.exists_end
  -- of two ends of a name one ends the other, and the sizes leave no room between the two here
  rcases List.append_eq_append_iff.mp (hname.symm.trans hname') with
    ⟨between, -, hend⟩ | ⟨between, -, hend⟩
  · cases between with
    | nil =>
      rw [List.nil_append] at hend
      rw [hend, hsize] at hgt
      omega
    | cons d between =>
      rw [List.cons_append, List.cons.injEq] at hend
      rw [hend.2, Text.byteLength_append, hsize] at hlt
      omega
  · rw [← hsize, hend, Text.byteLength_append] at hgt
    omega

/-- A name has a suffix when something is in front of it. -/
theorem isSuffixOf_iff_exists_append {suffix : String} :
    suffix.toList.isSuffixOf name.toList = true ↔ ∃ front, name = front ++ suffix := by
  rw [List.isSuffixOf_iff_suffix]
  constructor
  · rintro ⟨front, hfront⟩
    exact ⟨String.ofList front, String.toList_inj.mp (by simp [hfront])⟩
  · rintro ⟨front, rfl⟩
    exact ⟨front.toList, String.toList_append.symm⟩

/-- A field is derived by its name exactly when the suffix is not empty and ends the name, and the
name is not that of a nested child. Where the nested suffix would have to start inside a character
none is found, and none is there. -/
theorem isDerived_iff (rule : DerivedRule) (name : String) :
    (rule.isDerived name = true ↔
      rule.suffix ≠ "" ∧ (∃ front, name = front ++ rule.suffix) ∧ ¬ rule.IsNestedName name) ∧
    ∀ front c behind, name.toList = front ++ c :: behind →
      Text.byteLength behind < Text.byteLength rule.nestedSuffix.toList →
      Text.byteLength rule.nestedSuffix.toList < Text.byteLength (c :: behind) →
        rule.isNestedChild name = false ∧ ¬ rule.IsNestedName name := by
  refine ⟨?_, fun front c behind hname hlt hgt => ?_⟩
  · rw [isDerived, Bool.and_eq_true, Bool.and_eq_true, decide_eq_true_eq,
      isSuffixOf_iff_exists_append, Bool.not_eq_true', ← Bool.not_eq_true, isNestedChild_iff,
      and_assoc]
  · have hnot := not_isNestedName_of_inside hname hlt hgt
    rw [← Bool.not_eq_true, isNestedChild_iff]
    exact ⟨hnot, hnot⟩

/-- The nested suffix would start inside the first character. -/
example : (DerivedRule.mk "p" "xp").isDerived "ép" = true := by decide

end DerivedRule

end Refetch
