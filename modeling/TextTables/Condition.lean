import TextTables.Comparison
import TextTables.Row

/-!
# Conditions on rows

A condition is a tree of tests joined by `AND` and `OR`.  A test compares the
trimmed cell under a column with a literal; where the column or the cell is
missing it fails.
-/

namespace TextTables

/-- A condition on the rows of a table. -/
inductive Condition where
  /-- The cell under `column` stands to `literal` as `sign` says. -/
  | test (column sign literal : String)
  | both (left right : Condition)
  | either (left right : Condition)
deriving Repr, DecidableEq

namespace Condition

/-- Whether a row under a header meets a condition. -/
def holds (header row : List String) : Condition → Bool
  | test column sign literal =>
    match (Row.columnIndex? header column).bind (row[·]?) with
    | some cell => Comparison.holds sign (Text.trim cell) literal
    | none => false
  | both left right => left.holds header row && right.holds header row
  | either left right => left.holds header row || right.holds header row

end Condition

end TextTables
