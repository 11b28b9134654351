import TextTables.Number.Double
import TextTables.Text.Blank
import TextTables.Text.Lower
import TextTables.Text.Words

/-!
# Comparing cells

Two texts that both are numerals are compared as numbers, as double precision
holds them.  Any others are compared as text without regard to case, and only
for equality and for containment.
-/

namespace TextTables.Comparison

open Text (lower sameWord)

/-- The order of two numerals that a sign of comparison asks for; any other
operator holds for no numbers. -/
def numeric (sign : String) (left right : Int) : Bool :=
  if sign == "==" then left == right
  else if sign == "!=" then left != right
  else if sign == ">" then decide (right < left)
  else if sign == "<" then decide (left < right)
  else if sign == ">=" then decide (right ≤ left)
  else if sign == "<=" then decide (left ≤ right)
  else false

/-- Whether the characters of `part` stand one after another in the text. -/
def occursIn (part : List Char) : List Char → Bool
  | [] => part.isEmpty
  | c :: rest => part.isPrefixOf (c :: rest) || occursIn part rest

/-- The relation of two texts, at least one of them no numeral, that an operator
asks for. -/
def textual (sign : String) (left right : String) : Bool :=
  if sign == "==" then lower left == lower right
  else if sign == "!=" then lower left != lower right
  else if sameWord sign "LIKE" then occursIn (lower right).toList (lower left).toList
  else false

/-- Whether `value` and `literal` stand in the relation that the operator names. -/
def holds (sign value literal : String) : Bool :=
  match Decimal.ofText? value, Decimal.ofText? literal with
  | some left, some right => numeric sign (Double.ofDecimal left) (Double.ofDecimal right)
  | _, _ => textual sign value literal

/-- The equality on which rows are joined: that of the trimmed texts. -/
def equal (left right : String) : Bool :=
  holds "==" (Text.trim left) (Text.trim right)

end TextTables.Comparison
