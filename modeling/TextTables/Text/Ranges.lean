/-!
# Sets of characters given by ranges

A property of characters is a list of closed ranges of code points.  Tables of
this form are short, can be searched by the kernel, and say at a glance which
characters they hold.
-/

namespace TextTables.Text

/-- A closed range of code points. -/
structure CodeRange where
  first : Nat
  last : Nat
deriving Repr, DecidableEq

namespace CodeRange

/-- Membership of a code point in a range. -/
def holds (range : CodeRange) (code : Nat) : Bool :=
  range.first.ble code && code.ble range.last

end CodeRange

/-- Membership of a character in a union of ranges. -/
def inRanges (ranges : List CodeRange) (c : Char) : Bool :=
  ranges.any fun range => range.holds c.toNat

theorem inRanges_iff {ranges : List CodeRange} {c : Char} :
    inRanges ranges c = true ↔
      ∃ range ∈ ranges, range.first ≤ c.toNat ∧ c.toNat ≤ range.last := by
  simp [inRanges, CodeRange.holds]

end TextTables.Text
