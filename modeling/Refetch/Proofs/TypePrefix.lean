import Refetch.TypePrefix

/-!
# Taking a marker off

What is left of a name is a rest of it behind some copies of the marker, and not empty unless the
name is.

* `TypePrefix.exists_copies` — a name is some copies of the marker, then what is left of it
* `TypePrefix.dropMarker_copies_append` — copies with something behind them make no difference
* `TypePrefix.normalize_eq_self_iff` — the names that stay as they are
* `TypePrefix.normalize_remains` — what is left of a name, by the copies in front of it
-/

namespace Refetch

namespace TypePrefix

/-- The marker so many times, one after the other. -/
def copies (marker : List Char) (k : Nat) : List Char := (List.replicate k marker).flatten

@[simp] theorem copies_zero (marker : List Char) : copies marker 0 = [] := rfl

@[simp] theorem copies_succ (marker : List Char) (k : Nat) :
    copies marker (k + 1) = marker ++ copies marker k := by
  rw [copies, List.replicate_succ, List.flatten_cons, copies]

/-- Where copies of a marker come before a character, a text that does not start with that
character starts as the marker does. -/
theorem exists_marker_eq_cons {marker tail rest : List Char} {first c : Char} {k : Nat}
    (h : first :: tail = copies marker k ++ c :: rest) (hne : first ≠ c) :
    ∃ marker', marker = first :: marker' := by
  cases marker with
  | nil =>
    rw [copies, List.flatten_replicate_nil, List.nil_append] at h
    exact absurd (List.cons.inj h).1 hne
  | cons d marker' =>
    cases k with
    | zero => exact absurd (List.cons.inj h).1 hne
    | succ k =>
      rw [copies_succ, List.cons_append, List.cons_append] at h
      exact ⟨marker', by rw [(List.cons.inj h).1]⟩

variable {marker name rest : List Char}

/-- A marker goes if something is behind it. -/
theorem dropMarker_append (hmarker : marker ≠ []) (hrest : rest ≠ []) :
    dropMarker marker (marker ++ rest) = dropMarker marker rest := by
  obtain ⟨c, rest, rfl⟩ := List.exists_cons_of_ne_nil hrest
  have hwithout : without? marker (marker ++ c :: rest) = some (c :: rest) :=
    without?_eq_some_iff.mpr rfl
  rw [dropMarker, dif_neg hmarker]
  split
  · rename_i c' rest' h
    obtain ⟨rfl, rfl⟩ := List.cons.inj (Option.some.inj (hwithout.symm.trans h))
    rfl
  · rename_i h
    exact absurd hwithout (h c rest)

/-- A name that is no marker with something behind it stays as it is. -/
theorem dropMarker_eq_self (h : ∀ rest, rest ≠ [] → name ≠ marker ++ rest) :
    dropMarker marker name = name := by
  rw [dropMarker]
  split
  · rfl
  · split
    · rename_i c rest hwithout
      exact absurd (without?_eq_some_iff.mp hwithout) (h _ (List.cons_ne_nil _ _))
    · rfl

/-- Any number of markers in front of something come off first. -/
theorem dropMarker_copies_append (hmarker : marker ≠ []) (hrest : rest ≠ []) (k : Nat) :
    dropMarker marker (copies marker k ++ rest) = dropMarker marker rest := by
  induction k with
  | zero => rfl
  | succ k ih =>
    rw [copies_succ, List.append_assoc,
      dropMarker_append hmarker (List.append_ne_nil_of_right_ne_nil _ hrest), ih]

theorem copies_add (marker : List Char) (j k : Nat) :
    copies marker (j + k) = copies marker j ++ copies marker k := by
  rw [copies, ← List.replicate_append_replicate, List.flatten_append, copies, copies]

theorem length_copies (marker : List Char) (k : Nat) :
    (copies marker k).length = k * marker.length := by
  simp [copies]

theorem copies_inj (hmarker : marker ≠ []) {j k : Nat} (h : copies marker j = copies marker k) :
    j = k := by
  have hlength := congrArg List.length h
  rw [length_copies, length_copies] at hlength
  exact Nat.eq_of_mul_eq_mul_right (List.length_pos_iff.mpr hmarker) hlength

/-- A name is some copies of the marker, and behind them what is left of it. -/
theorem exists_copies (marker name : List Char) :
    ∃ k, name = copies marker k ++ dropMarker marker name := by
  fun_induction dropMarker marker name with
  | case1 name hmarker => exact ⟨0, rfl⟩
  | case2 name hmarker c rest hwithout hlt ih =>
    obtain ⟨k, hk⟩ := ih
    refine ⟨k + 1, ?_⟩
    rw [copies_succ, List.append_assoc, ← hk]
    exact without?_eq_some_iff.mp hwithout
  | case3 name hmarker hwithout => exact ⟨0, rfl⟩

/-- Something is left of a name. -/
theorem dropMarker_ne_nil (h : name ≠ []) : dropMarker marker name ≠ [] := by
  fun_induction dropMarker marker name with
  | case1 name hmarker => exact h
  | case2 name hmarker c rest hwithout hlt ih => exact ih (List.cons_ne_nil _ _)
  | case3 name hmarker hwithout => exact h

/-! ## As many copies as leave something -/

/-- More copies of the marker than are taken off leave nothing. -/
theorem le_of_copies (hmarker : marker ≠ []) {j k : Nat} {other : List Char}
    (hk : name = copies marker k ++ dropMarker marker name)
    (hj : name = copies marker j ++ other) (hother : other ≠ []) : j ≤ k := by
  have hdrop : dropMarker marker name = dropMarker marker other := by
    rw [hj, dropMarker_copies_append hmarker hother]
  obtain ⟨i, hi⟩ := exists_copies marker other
  -- the same is left of the name and of the other rest, so the copies are the same as well
  have hcopies : copies marker k ++ dropMarker marker name =
      copies marker (j + i) ++ dropMarker marker name := by
    rw [← hk, copies_add, List.append_assoc, hdrop, ← hi]
    exact hj
  have hsum := copies_inj hmarker (List.append_cancel_right hcopies)
  omega

/-- What is left of a name is what is behind as many copies of the marker as leave something. -/
theorem dropMarker_eq_iff (hmarker : marker ≠ []) (hname : name ≠ []) :
    dropMarker marker name = rest ↔ ∃ k, name = copies marker k ++ rest ∧ rest ≠ [] ∧
      ∀ j other, name = copies marker j ++ other → other ≠ [] → j ≤ k := by
  constructor
  · rintro rfl
    obtain ⟨k, hk⟩ := exists_copies marker name
    exact ⟨k, hk, dropMarker_ne_nil hname, fun j other => le_of_copies hmarker hk⟩
  · rintro ⟨k, hk, hrest, hmax⟩
    rw [hk, dropMarker_copies_append hmarker hrest]
    refine dropMarker_eq_self fun more hmore heq => ?_
    -- one more copy would have left something
    have hle := hmax (k + 1) more (by rw [hk, heq, copies_add]; simp [copies]) hmore
    omega

/-! ## Names without their prefix -/

/-- The marker is not in front of anything in the name. -/
def Bare (p : TypePrefix) (name : String) : Prop :=
  p.marker ≠ [] → ∀ rest, rest ≠ [] → name.toList ≠ p.marker ++ rest

/-- In what is left of a name the marker is not in front of anything. -/
theorem bare_normalize (p : TypePrefix) (name : String) : p.Bare (p.normalize name) := by
  intro hmarker
  rw [normalize, String.toList_ofList]
  fun_induction dropMarker p.marker name.toList with
  | case1 name hempty => exact absurd hempty hmarker
  | case2 name _ c rest hwithout hlt ih => exact ih
  | case3 name _ hwithout =>
    rintro rest hrest rfl
    obtain ⟨c, rest, rfl⟩ := List.exists_cons_of_ne_nil hrest
    exact hwithout c rest (without?_eq_some_iff.mpr rfl)

/-- Nothing comes off a name exactly if it is bare. -/
theorem normalize_eq_self_iff {p : TypePrefix} {name : String} :
    p.normalize name = name ↔ p.Bare name := by
  constructor
  · intro h
    rw [← h]
    exact p.bare_normalize name
  · intro hbare
    by_cases hmarker : p.marker = []
    · simp [normalize, hmarker, dropMarker]
    · simp [normalize, dropMarker_eq_self (hbare hmarker)]

/-- What is left of a name when as many copies of a prefix's marker, the prefix with an underscore,
are taken off its front as leave something. Where there is no prefix or no name, none is. -/
def Remains (prefixName name left : String) : Prop :=
  ∃ k, name.toList = copies (prefixName ++ "_").toList k ++ left.toList ∧
    (prefixName = "" ∨ name = "" → k = 0) ∧
    (prefixName ≠ "" → name ≠ "" → left ≠ "" ∧
      ∀ j other, name.toList = copies (prefixName ++ "_").toList j ++ other → other ≠ [] → j ≤ k)

variable {prefixName left : String}

theorem marker_ofName (h : prefixName ≠ "") :
    (ofName prefixName).marker = (prefixName ++ "_").toList := by
  simp [ofName, h]

/-- Without a prefix, or without a name, there is nothing to take off. -/
theorem normalize_of_empty {name : String} (h : prefixName = "" ∨ name = "") :
    (ofName prefixName).normalize name = name := by
  rw [normalize_eq_self_iff]
  rintro hmarker rest hrest hname
  rcases h with rfl | rfl
  · exact hmarker rfl
  · exact hrest (List.append_eq_nil_iff.mp hname.symm).2

/-- Without a prefix or a name all of the name remains. -/
theorem remains_of_empty {name : String} (h : prefixName = "" ∨ name = "") :
    Remains prefixName name left ↔ name = left := by
  constructor
  · rintro ⟨k, hk, hzero, -⟩
    rw [hzero h, copies_zero, List.nil_append] at hk
    exact String.toList_inj.mp hk
  · rintro rfl
    exact ⟨0, rfl, fun _ => rfl, fun hgiven hname => absurd h (not_or.mpr ⟨hgiven, hname⟩)⟩

/-- What normalizing leaves is what remains. -/
theorem normalize_eq_iff {name : String} :
    (ofName prefixName).normalize name = left ↔ Remains prefixName name left := by
  by_cases h : prefixName = "" ∨ name = ""
  · rw [normalize_of_empty h, remains_of_empty h]
  · obtain ⟨hgiven, hname⟩ := not_or.mp h
    have hdrop := @dropMarker_eq_iff (prefixName ++ "_").toList name.toList left.toList
      (by simp) (by simpa using hname)
    rw [normalize, marker_ofName hgiven, ← String.toList_inj, String.toList_ofList, hdrop]
    simp [Remains, hgiven, hname]

/-- No name is taken off whole. -/
theorem normalize_ne_empty {p : TypePrefix} {name : String} (h : name ≠ "") :
    p.normalize name ≠ "" := by
  intro hempty
  have hleft : dropMarker p.marker name.toList ≠ [] := dropMarker_ne_nil (by simpa using h)
  exact hleft (by simpa [normalize] using hempty)

/-- What is left of a type's name is what remains of it behind as many copies of the marker as leave
something, and only that. So nothing is left of the empty name only. Without a prefix there is no
marker; otherwise what is left starts with the marker only if it is the marker. Normalizing it once
more changes nothing. -/
theorem normalize_remains (prefixName name : String) :
    let normalized := (ofName prefixName).normalize name
    (∀ left, normalized = left ↔ Remains prefixName name left) ∧
      (normalized = "" → name = "") ∧
      (prefixName ≠ "" → ∀ rest, normalized = prefixName ++ "_" ++ rest →
        normalized = prefixName ++ "_") ∧
      (ofName prefixName).normalize normalized = normalized := by
  intro normalized
  have hbare := (ofName prefixName).bare_normalize name
  refine ⟨fun left => normalize_eq_iff,
    fun hempty => Decidable.byContradiction fun hname => normalize_ne_empty hname hempty,
    fun hgiven rest hrest => ?_, normalize_eq_self_iff.mpr hbare⟩
  by_cases hnone : rest = ""
  · rw [hrest, hnone, String.append_empty]
  · have hmarker : (ofName prefixName).marker ≠ [] := by simp [marker_ofName hgiven]
    have hfront : normalized.toList = (ofName prefixName).marker ++ rest.toList := by
      rw [hrest, String.toList_append, marker_ofName hgiven]
    exact absurd hfront (hbare hmarker rest.toList (by simpa using hnone))

end TypePrefix

end Refetch
