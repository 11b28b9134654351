import TextTables.Number.Whole
import TextTables.Row
import TextTables.Text.Blank

/-!
# Tables

A table is a header and rows below it.  It is kept as lines of text: the first
line is the header, and empty lines after it are not rows.
-/

namespace TextTables

/-- A header and the rows below it. -/
structure Table where
  header : List String
  rows : List (List String)
deriving Repr, DecidableEq

namespace Table

/-- The heading of the key column. -/
def keyColumn : String := "id"

/-- The table that lines hold; no lines hold none. -/
def ofLines? : List String → Option Table
  | [] => none
  | header :: lines =>
    some ⟨Row.ofLine header, (lines.filter (· != "")).map Row.ofLine⟩

/-- The lines of a table. -/
def toLines (t : Table) : List String :=
  (t.header :: t.rows).map Row.toLine

/-- The number of columns. -/
def width (t : Table) : Nat :=
  t.header.length

/-- The place of a column. -/
def columnIndex? (t : Table) (column : String) : Option Nat :=
  Row.columnIndex? t.header column

/-- The id of the next row: one more than the id of the last row, or one. -/
def nextId? (t : Table) : Option Int :=
  match t.rows.getLast? with
  | none => some 1
  | some row => do
    let cell ← row.head?
    let id ← Whole.signed? (Text.trim cell)
    Whole.next? id

end Table

end TextTables
