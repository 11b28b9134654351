import TextTables.Number.Decimal

/-!
# Whole numbers of bounded size

Row ids are 64-bit signed numbers and ports are 16-bit unsigned ones.  Both are
read from an optional sign and digits only, and a number that does not fit is
not read at all.
-/

namespace TextTables.Whole

/-- The largest 64-bit signed number. -/
def largestSigned : Int := 9223372036854775807

/-- The smallest 64-bit signed number. -/
def smallestSigned : Int := -9223372036854775808

/-- Reads a 64-bit signed number: a sign of either kind or none, and digits. -/
def signed? (s : String) : Option Int :=
  let (negative, digits) := Decimal.takeSign s.toList
  if Decimal.areDigits digits then
    let value := Int.ofNat (Decimal.valueOf digits)
    let value := if negative then -value else value
    if smallestSigned ≤ value ∧ value ≤ largestSigned then some value else none
  else
    none

/-- The next 64-bit signed number, unless there is none. -/
def next? (n : Int) : Option Int :=
  if n < largestSigned then some (n + 1) else none

/-- Reads an unsigned number below `2 ^ bits`: a plus sign or none, and digits. -/
def unsigned? (bits : Nat) (s : String) : Option Nat :=
  let digits :=
    match s.toList with
    | '+' :: rest => rest
    | cs => cs
  if Decimal.areDigits digits ∧ Decimal.valueOf digits < Nat.pow 2 bits then
    some (Decimal.valueOf digits)
  else
    none

/-- The decimal digits of a number, after a minus sign if it is negative. -/
def toText : Int → String
  | .ofNat n => Nat.repr n
  | .negSucc n => "-" ++ Nat.repr (n + 1)

end TextTables.Whole
