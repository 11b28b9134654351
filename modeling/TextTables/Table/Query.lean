import TextTables.Fault
import TextTables.Statement
import TextTables.Table

/-!
# Queries

The answer to a query is a table again: the columns asked for, and the rows that
meet the condition, or the pairs of rows that agree in a key.
-/

namespace TextTables.Table

/-- Whether a row of a table is among those that a condition asks for; without a
condition every row is. -/
def matchesRow (t : Table) (condition : Option Condition) (row : List String) : Bool :=
  match condition with
  | none => true
  | some condition => condition.holds t.header row

/-- The places of the columns that a query asks for. -/
def places (t : Table) : Selection → Except Fault (List Nat)
  | .all => .ok (List.range t.width)
  | .columns names =>
    names.mapM fun column =>
      match t.columnIndex? column with
      | some place => .ok place
      | none => .error (.columnMissing column)

/-- The columns and rows that a query asks for. -/
def select (t : Table) (columns : Selection) (condition : Option Condition) :
    Except Fault Table := do
  let places ← t.places columns
  return {
    header := Row.project places t.header
    rows := (t.rows.filter (t.matchesRow condition)).map (Row.project places) }

/-- The headings of some columns of a joined table, with the name of that table
before them. -/
def qualified (t : Table) (name : String) (places : List Nat) : List String :=
  (Row.project places t.header).map fun heading => name ++ "." ++ heading

/-- The row that a left and a right row make if they agree in their keys.  It
begins with the first cell of the left row. -/
def joinRows (leftKey rightKey : Nat) (leftPlaces rightPlaces : List Nat)
    (left right : List String) : Option (List String) :=
  match left[leftKey]?, right[rightKey]? with
  | some leftValue, some rightValue =>
    if Comparison.equal leftValue rightValue then
      some (Row.cellAt left 0 :: Row.project leftPlaces left ++ Row.project rightPlaces right)
    else
      none
  | _, _ => none

/-- Pairs the rows of two tables that agree in a column of each.  The columns of
both follow the id of the left row: all but the keys, and of the left table all
but the first. -/
def join (left right : Table) (leftName rightName leftColumn rightColumn : String) :
    Except Fault Table :=
  match left.columnIndex? leftColumn, right.columnIndex? rightColumn with
  | some leftKey, some rightKey =>
    let leftPlaces := (List.range left.width).filter fun i => i != 0 && i != leftKey
    let rightPlaces := (List.range right.width).filter fun i => i != rightKey
    .ok {
      header :=
        keyColumn :: left.qualified leftName leftPlaces ++
          right.qualified rightName rightPlaces
      rows := left.rows.flatMap fun leftRow =>
        right.rows.filterMap (joinRows leftKey rightKey leftPlaces rightPlaces leftRow) }
  | _, _ => .error .joinColumnMissing

end TextTables.Table
