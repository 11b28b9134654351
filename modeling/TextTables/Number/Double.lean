import TextTables.Number.Decimal

/-!
# Decimals as double precision numbers

Numerals are compared by the double precision number nearest to each, a tie
going to the even neighbour.  Every such number is a whole multiple of the
smallest positive one, `2 ^ (-1074)`, so it is held here as that multiple, an
integer; infinity is the multiple one step above the largest finite number.
Comparing doubles is then comparing integers, and both zeros are one.
-/

namespace TextTables.Double

/-- The whole number nearest to `num / den`, of two the even one. -/
def roundQuotient (num den : Nat) : Nat :=
  let quotient := num / den
  let twice := 2 * (num % den)
  if twice < den then quotient
  else if den < twice then quotient + 1
  else quotient + quotient % 2

/-- The number of binary digits that a double keeps. -/
def precision : Nat := 53

/-- Where infinity stands, in units of the smallest positive double. -/
def infinity : Nat := Nat.pow 2 2098

/-- The double nearest to `digits / 10 ^ places`, in units of the smallest
positive one.  Numbers with more than `precision` binary digits before the unit
are rounded to a multiple of a larger power of two. -/
def magnitude (digits places : Nat) : Nat :=
  let num := digits * Nat.pow 2 1074
  let den := Nat.pow 10 places
  let step := Nat.pow 2 (Nat.log2 (num / den) + 1 - precision)
  min (roundQuotient num (den * step) * step) infinity

/-- The double nearest to a decimal. -/
def ofDecimal (d : Decimal) : Int :=
  let units := Int.ofNat (magnitude d.digits d.places)
  if d.negative then -units else units

example : ofDecimal ⟨false, 9007199254740993, 0⟩ = ofDecimal ⟨false, 9007199254740992, 0⟩ := by
  decide +kernel
example : ofDecimal ⟨true, 0, 0⟩ = ofDecimal ⟨false, 0, 5⟩ := by decide +kernel
example : ofDecimal ⟨false, 1, 0⟩ = 2 ^ 1074 := by decide +kernel

end TextTables.Double
