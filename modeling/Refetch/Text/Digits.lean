/-!
# Digits

Numbers as runs of digits: reading decimal and hexadecimal ones, and writing one with a
least number of digits.
-/

namespace Refetch.Text

/-- The value of a run of decimal digits, the most significant one first. -/
def digitsValue (digits : List Char) : Nat :=
  digits.foldl (fun n c => 10 * n + (c.toNat - '0'.toNat)) 0

/-- The value of a hexadecimal digit. -/
def hexValue? (c : Char) : Option Nat :=
  if c.isDigit then some (c.toNat - '0'.toNat)
  else if 'a' ≤ c && c ≤ 'f' then some (c.toNat - 'a'.toNat + 10)
  else if 'A' ≤ c && c ≤ 'F' then some (c.toNat - 'A'.toNat + 10)
  else none

/-- The value of a run of hexadecimal digits, the most significant one first. -/
def hexNumber? (digits : List Char) : Option Nat :=
  digits.foldlM (fun n c => (hexValue? c).map (16 * n + ·)) 0

/-- A number in a base, with zeros in front up to four digits. -/
def fourDigits (base n : Nat) : List Char :=
  let digits := Nat.toDigits base n
  .replicate (4 - digits.length) '0' ++ digits

end Refetch.Text
