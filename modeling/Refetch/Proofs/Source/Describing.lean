import Mathlib
import Refetch.Source.Descriptor

/-!
# What describes a source

A text describes a source, and so does an object that wraps a scalar, if the scalar is a text that
is not empty, or `true`, or a number that is not zero. A number is zero if the double that it is or
that is nearest to it has no bits but the sign; of the whole numbers that is zero alone.

* `Decimal.beq_zero_iff` — which doubles are equal to zero
* `Json.isZero_iff` — which numbers are zero as doubles
* `Source.ofJson?_eq_some_iff` — which values describe which sources
* `Source.ofJson_eq_error_iff` — which values describe none, and what is said of them
-/

namespace Refetch

/-! ## Zero -/

namespace Decimal

/-- The bits of a double, the sign left out. -/
def magnitude (x : Float) : Nat := x.toBits.toNat % 0x8000000000000000

theorem toBits_zero : (0 : Float).toBits = 0 ∧ (-0 : Float).toBits = 0x8000000000000000 := by
  decide +kernel

/-- The two zeros are the numbers of no magnitude. -/
theorem magnitude_eq_zero_iff {x : Float} : magnitude x = 0 ↔ x = 0 ∨ x = -0 := by
  have hlt := x.toBits.toNat_lt
  rw [magnitude, ← Float.toBits_inj, ← Float.toBits_inj, toBits_zero.1, toBits_zero.2,
    ← UInt64.toNat_inj, ← UInt64.toNat_inj]
  simp only [UInt64.toNat_ofNat]
  omega

/-- Of the doubles the zeros of either sign are equal to zero. -/
theorem beq_zero_iff {x : Float} : (x == 0.0) = true ↔ magnitude x = 0 := by
  have hzero : (0.0 : Float) = 0 := by
    rw [← Float.toBits_inj]
    decide +kernel
  have hnan : (0 : Float) ≠ .nan ∧ (-0 : Float) ≠ .nan := by
    rw [Ne, Ne, ← Float.toBits_inj, ← Float.toBits_inj]
    decide +kernel
  have hsign : (0 : Float) ≠ -0 := by
    rw [Ne, ← Float.toBits_inj]
    decide +kernel
  rw [magnitude_eq_zero_iff, hzero, Float.beq_iff_ne_nan_and_eq]
  constructor
  · rintro ⟨-, -, h | h | h⟩
    · exact .inl h
    · exact absurd h.2 hsign
    · exact .inr h.1
  · rintro (rfl | rfl)
    · exact ⟨hnan.1, hnan.1, .inl rfl⟩
    · exact ⟨hnan.2, hnan.1, .inr (.inr ⟨rfl, rfl⟩)⟩

/-- Above the least exponent there are other bits than the sign. -/
theorem bits_pos {q : Int} (h : leastExponent < q) (rounded : Nat) :
    0 < min ((q - leastExponent).toNat * Nat.pow 2 fractionBits + rounded) infinityBits := by
  have hsteps : 0 < (q - leastExponent).toNat := by omega
  have hinfinity : 0 < infinityBits := by decide
  exact Nat.lt_min.mpr ⟨Nat.add_pos_left (Nat.mul_pos hsteps (by decide)) _, hinfinity⟩

/-- The double nearest to a whole number is zero for zero only. -/
theorem nearestBits_eq_zero_iff {n : Nat} : nearestBits n 1 = 0 ↔ n = 0 := by
  rw [nearestBits]
  by_cases hzero : n = 0
  · simp [hzero]
  · rw [if_neg hzero]
    refine iff_of_false (Nat.ne_of_gt (bits_pos ?_ _)) hzero
    refine Int.lt_of_lt_of_le ?_ (Int.le_max_left _ _)
    -- the exponent that is tried first is far from the least one, and so is the one before it
    have hguess : leastExponent < (n.log2 : Int) - Nat.log2 1 - fractionBits - 1 := by
      have hone : Nat.log2 1 = 0 := by decide
      rw [leastExponent, fractionBits, hone]
      omega
    split
    · exact hguess
    · omega

end Decimal

namespace Json

variable {value : Json} {text : String}

/-- The bits of a number as a double, the sign left out. -/
def magnitude? : Json → Option Nat
  | .int n => some (Decimal.nearestBits n.natAbs 1)
  | .float x => some (Decimal.magnitude x)
  | _ => none

/-- A value is zero when it has a magnitude and that is zero. -/
theorem isZero_iff : value.isZero = true ↔ value.magnitude? = some 0 := by
  cases value with
  | int n =>
    rw [isZero, magnitude?, decide_eq_true_eq, Option.some.injEq,
      Decimal.nearestBits_eq_zero_iff, Int.natAbs_eq_zero]
  | float x => rw [isZero, magnitude?, Option.some.injEq, Decimal.beq_zero_iff]
  | _ => simp [isZero, magnitude?]

/-! ## Scalars and the objects that wrap them -/

/-- A scalar that stands for a text. -/
inductive StandsFor : Json → String → Prop where
  /-- A text that is not empty stands for itself. -/
  | string {text : String} (h : text ≠ "") : StandsFor (.string text) text
  /-- Of the two truth values, only the one does. -/
  | yes : StandsFor (.boolean true) "true"
  /-- A number that is not zero as a double stands for the way it is written. -/
  | number {value : Json} {bits : Nat} (h : value.magnitude? = some bits) (hne : bits ≠ 0) :
    StandsFor value value.print

/-- The sources that values describe. -/
inductive Describes : Json → Source → Prop where
  /-- A text describes itself as it was supplied. -/
  | text (supplied : String) : Describes (.string supplied) (.text supplied)
  /-- An object wraps the text of its member `source`, whatever its other members are. -/
  | wrapped {members : List (String × Json)} {value : Json} {text : String}
    (h : member? "source" members = some value) (htext : value.StandsFor text) :
    Describes (.object members) (.wrapped text)

/-- Does a value describe a source? -/
def IsDescriptor (json : Json) : Prop := ∃ source, json.Describes source

/-- A number stands for something unless it is zero. -/
theorem standsFor_number_iff {bits : Nat} (h : value.magnitude? = some bits) :
    value.StandsFor text ↔ value.isZero = false ∧ value.print = text := by
  rw [← Bool.not_eq_true, isZero_iff, h, Option.some.injEq]
  constructor
  · rintro (_ | _ | ⟨hbits, hne⟩)
    · cases h
    · cases h
    · obtain rfl := Option.some.inj (h.symm.trans hbits)
      exact ⟨hne, rfl⟩
  · rintro ⟨hne, rfl⟩
    exact .number h hne

/-- A value is read as the text that it stands for. -/
theorem sourceText?_eq_some_iff : value.sourceText? = some text ↔ value.StandsFor text := by
  cases value with
  | int n =>
    rw [standsFor_number_iff rfl, sourceText?]
    cases (Json.int n).isZero <;> simp
  | float x =>
    rw [standsFor_number_iff rfl, sourceText?]
    cases (Json.float x).isZero <;> simp
  | string own =>
    rw [sourceText?]
    constructor
    · intro h
      split at h
      case isTrue hempty => cases h
      case isFalse hne =>
        obtain rfl := Option.some.inj h
        exact .string hne
    · rintro (hne | _ | ⟨⟨⟩, -⟩)
      exact if_neg hne
  | boolean b =>
    cases b with
    | true =>
      constructor
      · rintro ⟨⟩
        exact .yes
      · rintro (_ | _ | ⟨⟨⟩, -⟩)
        rfl
    | false => exact iff_of_false nofun (by rintro (_ | _ | ⟨⟨⟩, -⟩))
  | _ => exact iff_of_false nofun (by rintro (_ | _ | ⟨⟨⟩, -⟩))

/-- The sign of a zero makes no difference. -/
example : Json.sourceText? (.float (-0.0)) = none := by decide +kernel

end Json

namespace Source

variable {json : Json} {source : Source} {e : LoadError}

/-! ## Descriptors -/

/-- A value is read as the source that it describes. -/
theorem ofJson?_eq_some_iff : ofJson? json = some source ↔ json.Describes source := by
  constructor
  · intro h
    cases json with
    | string supplied =>
      obtain rfl := Option.some.inj h
      exact .text supplied
    | object members =>
      obtain ⟨text, htext, rfl⟩ := Option.map_eq_some_iff.mp h
      obtain ⟨value, hvalue, htext⟩ := Option.bind_eq_some_iff.mp htext
      exact .wrapped hvalue (Json.sourceText?_eq_some_iff.mp htext)
    | _ => cases h
  · rintro (supplied | ⟨hvalue, htext⟩)
    · rfl
    · rw [ofJson?, hvalue, Option.bind_some, Json.sourceText?_eq_some_iff.mpr htext,
        Option.map_some]

theorem ofJson_eq_ok_iff : ofJson json = .ok source ↔ json.Describes source := by
  rw [← ofJson?_eq_some_iff, ofJson]
  cases ofJson? json <;> simp

/-- A value that describes no source is refused with all of it in the message. -/
theorem ofJson_eq_error_iff :
    ofJson json = .error e ↔ ¬ json.IsDescriptor ∧ e = .unrecognizedShape json.print := by
  simp only [Json.IsDescriptor, ← ofJson?_eq_some_iff, ofJson]
  cases ofJson? json <;> simp [eq_comm]

end Source

end Refetch
