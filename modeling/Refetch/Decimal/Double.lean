/-!
# Doubles as binary fractions

A finite double is `m * 2 ^ q` for whole numbers `m` and `q`. This module reads `m` and `q`
off the bits, and finds the bits of the double nearest to a ratio of natural numbers, both
in exact arithmetic.
-/

namespace Refetch.Decimal

/-- The fraction bits of a double. -/
def fractionBits : Nat := 52

/-- The least exponent `q` of a double; those below the normal range have it too. -/
def leastExponent : Int := -1074

/-- The bits of positive infinity. -/
def infinityBits : Nat := 2047 * Nat.pow 2 fractionBits

/-- A positive double `m * 2 ^ q`. -/
structure Double where
  /-- the whole number -/
  m : Nat
  /-- the power of two -/
  q : Int
  /-- does the gap to the double below have half the width of the gap above? It has when `m`
  is the least of its range and the range below is finer. -/
  narrowBelow : Bool
  deriving DecidableEq, Repr

/-- Reads the bits of a finite double, the sign left out. -/
def Double.ofBits (bits : Nat) : Double :=
  let fraction := bits % Nat.pow 2 fractionBits
  let field := bits / Nat.pow 2 fractionBits % 2048
  if field = 0 then ⟨fraction, leastExponent, false⟩
  else ⟨Nat.pow 2 fractionBits + fraction, field - 1 + leastExponent, fraction = 0 && 1 < field⟩

/-- Two to a power, as a ratio. -/
def powerOfTwo (q : Int) : Nat × Nat :=
  if 0 ≤ q then (Nat.pow 2 q.natAbs, 1) else (1, Nat.pow 2 q.natAbs)

/-- Divides and rounds to the nearest whole number, a half to the even one. -/
def divNearest (num den : Nat) : Nat :=
  let quotient := num / den
  let twice := 2 * (num % den)
  if den < twice || (twice = den && quotient % 2 = 1) then quotient + 1 else quotient

/-- The bits of the double nearest to `num / den`, of two equally near ones the one with an
even last bit. A ratio beyond the range gives infinity. -/
def nearestBits (num den : Nat) : Nat :=
  if num = 0 then 0
  else
    let scaled (q : Int) : Nat × Nat :=
      let (up, down) := powerOfTwo q
      (num * down, den * up)
    let guess : Int := (num.log2 : Int) - den.log2 - fractionBits
    let (n, d) := scaled guess
    let fitted := if n / d < Nat.pow 2 fractionBits then guess - 1 else guess
    let q := max fitted leastExponent
    let (n, d) := scaled q
    min ((q - leastExponent).toNat * Nat.pow 2 fractionBits + divNearest n d) infinityBits

/-- The double nearest to `mantissa * 10 ^ exponent`. Beyond four hundred digits on either
side the answer is infinity or zero, which spares the big powers. -/
def nearestFloat (mantissa : Nat) (exponent : Int) : Float :=
  let magnitude := exponent + (Nat.toDigits 10 mantissa).length
  let bits :=
    if mantissa = 0 || magnitude < -400 then 0
    else if 400 < magnitude then infinityBits
    else if 0 ≤ exponent then nearestBits (mantissa * Nat.pow 10 exponent.natAbs) 1
    else nearestBits mantissa (Nat.pow 10 exponent.natAbs)
  Float.ofBits (.ofNat bits)

end Refetch.Decimal
