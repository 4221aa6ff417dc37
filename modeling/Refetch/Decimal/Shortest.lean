import Refetch.Decimal.Double

/-!
# Shortest decimals

The fewest decimal digits that read back as a given double. The numbers that read back as
`m * 2 ^ q` form an interval around it, closed when `m` is even; on the grid of decimals
with `n` digits only the two neighbours of the double need to be tried, and the first grid
with a neighbour inside the interval wins. When both are inside, the nearer is taken, and
between equally near ones the format decides (`Tie`).
-/

namespace Refetch.Decimal

/-- Which of two equally near decimals is taken. -/
inductive Tie where
  /-- the one with an even last digit -/
  | even
  /-- the larger one -/
  | up
  deriving DecidableEq, Repr

/-- A positive decimal: its digits, most significant first and without zeros at the end, and
the power of ten of the first one. -/
structure Digits where
  /-- the digits -/
  digits : List Char
  /-- the power of ten of the first digit -/
  exponent : Int
  deriving DecidableEq, Repr

/-- A ratio against which decimals are tried: a value and the interval of the numbers that
read back as it, all over one denominator. -/
structure Target where
  /-- the numerator of the value -/
  value : Nat
  /-- the numerator of the lower end -/
  low : Nat
  /-- the numerator of the upper end -/
  high : Nat
  /-- the denominator -/
  den : Nat
  /-- do the ends belong to the interval? -/
  closed : Bool

/-- The interval of a double: half way to its neighbours on either side. -/
def Double.target (x : Double) : Target :=
  let (up, down) := powerOfTwo (x.q - 2)
  { value := 4 * x.m * up
    low := (4 * x.m - if x.narrowBelow then 1 else 2) * up
    high := (4 * x.m + 2) * up
    den := down
    closed := x.m % 2 = 0 }

/-- Scales a target by a power of ten, so that a grid of decimals becomes the whole numbers. -/
def Target.scale (t : Target) (power : Int) : Target :=
  let factor := Nat.pow 10 power.natAbs
  if 0 ≤ power then
    { t with value := t.value * factor, low := t.low * factor, high := t.high * factor }
  else
    { t with den := t.den * factor }

/-- Does the whole number `n` lie in the interval? -/
def Target.holds (t : Target) (n : Nat) : Bool :=
  let num := n * t.den
  if t.closed then t.low ≤ num && num ≤ t.high else t.low < num && num < t.high

/-- Of the whole numbers beside the value, the one that reads back; when both do, the nearer,
and a tie goes as `tie` says. -/
def Target.neighbour? (t : Target) (tie : Tie) : Option Nat :=
  let below := t.value / t.den
  match t.holds below, t.holds (below + 1) with
  | false, false => none
  | true, false => some below
  | false, true => some (below + 1)
  | true, true =>
    let twice := 2 * (t.value % t.den)
    let upward := t.den < twice ||
      (twice = t.den && (tie == .up || below % 2 = 1))
    some (if upward then below + 1 else below)

/-- The power of ten of the first digit of the value. -/
def Target.leading (t : Target) : Int :=
  let guess : Int := (Nat.toDigits 10 t.value).length - (Nat.toDigits 10 t.den).length
  let scaled := t.scale (-guess)
  if scaled.den ≤ scaled.value then guess else guess - 1

/-- Drops the zeros at the end. -/
def dropTrailingZeros (digits : List Char) : List Char :=
  (digits.reverse.dropWhile (· == '0')).reverse

/-- Tries grids of `digits` digits and more, `tries` of them. -/
def Target.search (t : Target) (tie : Tie) (leading : Int) : Nat → Nat → Digits
  | 0, _ => ⟨[], leading⟩
  | tries + 1, count =>
    let last := leading - (count - 1)
    match (t.scale (-last)).neighbour? tie with
    | none => t.search tie leading tries (count + 1)
    | some n =>
      let written := Nat.toDigits 10 n
      ⟨dropTrailingZeros written, last + (written.length - 1)⟩

/-- The shortest decimal that reads back as the double; seventeen digits always do. -/
def Double.shortest (x : Double) (tie : Tie) : Digits :=
  let t := x.target
  t.search tie t.leading 17 1

end Refetch.Decimal
