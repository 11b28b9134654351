/-!
# Decimal numerals

A numeral is an optional sign, one digit or more and, if a point follows, one
digit or more behind it.  There is no exponent and no bare point.  Its value is
an exact decimal fraction.
-/

namespace TextTables

/-- The decimal fraction `digits / 10 ^ places`, with a sign. -/
structure Decimal where
  negative : Bool
  digits : Nat
  places : Nat
deriving Repr, DecidableEq

namespace Decimal

/-- One digit or more, and nothing else. -/
def areDigits (cs : List Char) : Bool :=
  !cs.isEmpty && cs.all Char.isDigit

/-- The number that digits stand for in base ten. -/
def valueOf (cs : List Char) : Nat :=
  cs.foldl (fun value c => 10 * value + (c.toNat - '0'.toNat)) 0

/-- Takes one sign off, and says whether it was a minus. -/
def takeSign : List Char → Bool × List Char
  | '+' :: rest => (false, rest)
  | '-' :: rest => (true, rest)
  | cs => (false, cs)

/-- Reads the characters of a numeral. -/
def ofChars? (cs : List Char) : Option Decimal :=
  let (negative, unsigned) := takeSign cs
  let whole := unsigned.takeWhile (· != '.')
  match unsigned.dropWhile (· != '.') with
  | [] => if areDigits whole then some ⟨negative, valueOf whole, 0⟩ else none
  | _ :: fraction =>
    if areDigits whole && areDigits fraction then
      some ⟨negative, valueOf (whole ++ fraction), fraction.length⟩
    else
      none

/-- Reads a numeral. -/
def ofText? (s : String) : Option Decimal :=
  ofChars? s.toList

/-- The form of a numeral. -/
def isNumeral (s : String) : Bool :=
  (ofText? s).isSome

example : ofText? "-0.50" = some ⟨true, 50, 2⟩ := by decide +kernel
example : isNumeral "1." = false ∧ isNumeral ".5" = false ∧ isNumeral "+-1" = false := by
  decide +kernel

end Decimal

end TextTables
