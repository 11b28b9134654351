import TextTables.Table.Query
import TextTables.Token

/-!
# Changes of a table

Rows are added at the end under the next id, changed in place, or taken out;
columns are added at the end or taken out.  Rows that are too short for the
header are filled up where a change reaches them.
-/

namespace TextTables.Table

/-- The header that the first values of a table without one make.  The key comes
first and is not taken from the values. -/
def headerOf (values : List String) : Except Fault (List String) :=
  go [] (values.map Token.stripQuotes)
where
  /-- Adds names to those already taken, which are given last first. -/
  go (taken : List String) : List String → Except Fault (List String)
    | [] => .ok (keyColumn :: taken.reverse)
    | name :: rest =>
      if Text.sameWord name keyColumn then go taken rest
      else if taken.contains name then .error (.headingTwice name)
      else go (name :: taken) rest

/-- Adds a row of values, one for each column but the key. -/
def insert (t : Table) (values : List String) : Except Fault Table :=
  let expected := t.width - 1
  if values.length != expected then .error (.valueCount expected values.length)
  else
    match t.nextId? with
    | none => .error .unusableId
    | some id =>
      let row := Whole.toText id :: values.map Token.stripQuotes
      .ok { t with rows := t.rows ++ [row] }

/-- The places that assignments name, with the values assigned. -/
def targets (t : Table) (assignments : List (String × String)) :
    Except Fault (List (Nat × String)) :=
  assignments.mapM fun (column, value) =>
    match t.columnIndex? column with
    | some place => .ok (place, Token.stripQuotes value)
    | none => .error .assignedColumnMissing

/-- Assigns values in the rows that a condition asks for. -/
def update (t : Table) (assignments : List (String × String))
    (condition : Option Condition) : Except Fault Table := do
  let targets ← t.targets assignments
  return {
    t with
    rows := t.rows.map fun row =>
      if t.matchesRow condition row then Row.assign targets (Row.pad t.width row)
      else row }

/-- Takes out the rows that meet a condition; without one it takes out none. -/
def delete (t : Table) (condition : Option Condition) : Table :=
  match condition with
  | none => t
  | some condition =>
    { t with rows := t.rows.filter fun row => !condition.holds t.header row }

/-- A table with every row at least as long as its header. -/
def padded (t : Table) : Table :=
  { t with rows := t.rows.map (Row.pad t.width) }

/-- Adds a column at the end, empty in every row, or takes a column out. -/
def alter (t : Table) (change : Alteration) (column : String) : Except Fault Table :=
  if Text.sameWord column keyColumn then .error .keyAltered
  else
    match change, t.columnIndex? column with
    | .add, some _ => .error (.columnExists column)
    | .add, none =>
      .ok (padded {
        header := t.header ++ [column]
        rows := t.rows.map (· ++ [Row.null]) })
    | .drop, none => .error (.columnMissing column)
    | .drop, some place =>
      .ok (padded {
        header := t.header.eraseIdx place
        rows := t.rows.map (·.eraseIdx place) })

end TextTables.Table
