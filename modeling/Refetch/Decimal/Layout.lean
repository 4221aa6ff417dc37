import Refetch.Decimal.Shortest

/-!
# Layouts of decimals

How the shortest digits of a double are set out as text. A `Layout` holds the choices that
a format makes: which exponents are written positionally, whether a whole number keeps a
`.0`, and how ties between equally near decimals go.
-/

namespace Refetch.Decimal

/-- The choices of a format. -/
structure Layout where
  /-- is a number whose first digit has this power of ten written without an exponent? -/
  positional : Int → Bool
  /-- does a whole number written positionally end in `.0`? -/
  pointZero : Bool
  /-- which of two equally near decimals is taken -/
  tie : Tie

/-- Sets digits out positionally. -/
def Digits.positional (d : Digits) (pointZero : Bool) : List Char :=
  if d.exponent < 0 then
    ['0', '.'] ++ .replicate (d.exponent.natAbs - 1) '0' ++ d.digits
  else
    let count := d.exponent.natAbs + 1
    let whole := d.digits.take count ++ .replicate (count - d.digits.length) '0'
    match d.digits.drop count with
    | [] => whole ++ if pointZero then ['.', '0'] else []
    | places => whole ++ '.' :: places

/-- Sets digits out with an exponent: one digit before the point, and a sign always. -/
def Digits.scientific (d : Digits) : List Char :=
  let places := match d.digits.drop 1 with
    | [] => []
    | rest => '.' :: rest
  let sign := if d.exponent < 0 then '-' else '+'
  d.digits.take 1 ++ places ++ 'e' :: sign :: Nat.toDigits 10 d.exponent.natAbs

/-- Writes the bits of a double, the sign left out. -/
def Layout.writeBits (layout : Layout) (bits : Nat) : List Char :=
  if bits = 0 then '0' :: if layout.pointZero then ['.', '0'] else []
  else if infinityBits < bits then ['N', 'a', 'N']
  else if bits = infinityBits then ['i', 'n', 'f']
  else
    let d := (Double.ofBits bits).shortest layout.tie
    if layout.positional d.exponent then d.positional layout.pointZero else d.scientific

/-- Writes a double. -/
def Layout.write (layout : Layout) (x : Float) : String :=
  let bits := x.toBits.toNat
  let digits := layout.writeBits (bits % 0x8000000000000000)
  .ofList (if 0x8000000000000000 ≤ bits then '-' :: digits else digits)

end Refetch.Decimal
