import TextTables.Number.Double

/-!
# Decimals with an exponent

A number is written as digits and a power of ten, which may be far out of the
range of doubles.  Only numbers near the largest double are computed; all others
are judged by the place of their first digit.
-/

namespace TextTables

/-- The number `digits * 10 ^ exponent`. -/
structure Scientific where
  digits : List Char
  exponent : Int
deriving Repr, DecidableEq

namespace Scientific

/-- The number of digits before the point of the largest double. -/
def widest : Nat := 309

/-- Whether the double nearest to a number is finite. -/
def isFinite (s : Scientific) : Bool :=
  let digits := s.digits.dropWhile (· == '0')
  let width := digits.length + s.exponent
  if digits.isEmpty || width < widest then true
  else if widest < width then false
  else
    let value := Decimal.valueOf digits * Nat.pow 10 s.exponent.toNat
    Double.magnitude value (-s.exponent).toNat < Double.infinity

example : isFinite ⟨['1', '7'], 307⟩ = true ∧ isFinite ⟨['1', '8'], 307⟩ = false := by
  decide +kernel
example : isFinite ⟨['0', '0'], 999⟩ = true ∧ isFinite ⟨['1'], -999⟩ = true := by
  decide +kernel

end Scientific

end TextTables
