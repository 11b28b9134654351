import TextTables.Reply
import TextTables.Session
import TextTables.Statement.Reading
import TextTables.Table.Change

/-!
# Executing statements

Each statement is a computation in a session: it looks up what it names, works
on the table as a value, and writes the lines back.  A refused statement leaves
the selection as it was.
-/

namespace TextTables

namespace Action

open Attempt (fail ofExcept)

variable {σ : Type} [Store σ]

/-- Selects a database that exists, and gets to know its tables. -/
def use (database : String) : Action σ Unit := do
  let s ← Attempt.state
  if Store.databaseExists s.store database then
    let tables ← ofExcept (Store.tables s.store database)
    Attempt.modify fun s => {
      s with
      known := s.known.insert (storedName database) tables
      selected := some database }
  else
    fail (.databaseMissing database)

/-- Adds a table to the selected database. -/
def createTable (table : String) (columns : List String) : Action σ Unit := do
  let database ← current
  change fun store => Store.createTable store database table (Table.keyColumn :: columns)
  Attempt.modify fun s => s.addKnown database table

/-- Takes a table out of the selected database. -/
def dropTable (table : String) : Action σ Unit := do
  let database ← current
  change fun store => Store.dropTable store database table
  Attempt.modify fun s => s.dropKnown database table

/-- Takes a database out. -/
def dropDatabase (database : String) : Action σ Unit := do
  change fun store => Store.dropDatabase store database
  Attempt.modify fun s => s.dropDatabase database

/-- Changes a table of the selected database. -/
def changeTable (name : String) (f : Table → Except Fault Table) : Action σ Unit := do
  let changed ← ofExcept (f (← table name))
  put name changed.toLines

/-- The lines of a table with a row more.  The values for a table without lines
are its header. -/
def linesAfterInsert (lines values : List String) : Except Fault (List String) :=
  match Table.ofLines? lines with
  | none => (Table.headerOf values).map fun header => [Row.toLine header]
  | some found => (found.insert values).map Table.toLines

/-- Adds a row to a table of the selected database. -/
def insert (name : String) (values : List String) : Action σ Unit := do
  put name (← ofExcept (linesAfterInsert (← lines name) values))

/-- Answers a query of one table. -/
def select (name : String) (columns : Selection) (condition : Option Condition) :
    Action σ Table := do
  let found ← table name
  ofExcept (found.select columns condition)

/-- Both tables of a query; if either is missing, it is not said which. -/
def bothOf (leftLines rightLines : List String) : Except Fault (Table × Table) :=
  match Table.ofLines? leftLines, Table.ofLines? rightLines with
  | some left, some right => .ok (left, right)
  | _, _ => .error .joinTableEmpty

/-- Answers a query of two tables. -/
def join (left right leftColumn rightColumn : String) : Action σ Table := do
  let leftLines ← lines left
  let rightLines ← lines right
  let (leftTable, rightTable) ← ofExcept (bothOf leftLines rightLines)
  ofExcept (leftTable.join rightTable left right leftColumn rightColumn)

end Action

namespace Statement

variable {σ : Type} [Store σ]

/-- What a statement does in a session. -/
def action : Statement → Action σ Reply
  | use database => do
    Action.use database
    return .done
  | createDatabase database => do
    Action.change fun store => Store.createDatabase store database
    return .done
  | createTable table columns => do
    Action.createTable table columns
    return .done
  | insert table values => do
    Action.insert table values
    return .done
  | select table columns condition => do
    return .rows (← Action.select table columns condition)
  | update table assignments condition => do
    Action.changeTable table fun t => t.update assignments condition
    return .done
  | delete table condition => do
    Action.changeTable table fun t => .ok (t.delete condition)
    return .done
  | alter table change column => do
    Action.changeTable table fun t => t.alter change column
    return .done
  | dropTable table => do
    Action.dropTable table
    return .done
  | dropDatabase database => do
    Action.dropDatabase database
    return .done
  | join left right leftColumn rightColumn => do
    return .rows (← Action.join left right leftColumn rightColumn)

end Statement

namespace Session

open Statement (action)

variable {σ : Type} [Store σ]

/-- Executes a statement.  If it is refused, the selection stays as it was. -/
def perform (s : Session σ) (statement : Statement) : Reply × Session σ :=
  match (action statement).run s with
  | (.ok reply, after) => (reply, after)
  | (.error fault, after) => (.refused fault, { after with selected := s.selected })

/-- Executes the text of a statement. -/
def execute (s : Session σ) (text : String) : Reply × Session σ :=
  if Text.allBlank text then (.refused .emptyCommand, s)
  else
    match Statement.ofText text with
    | .error fault => (.refused fault, s)
    | .ok statement => s.perform statement

/-- Executes texts one after another. -/
def executeAll (s : Session σ) : List String → List Reply × Session σ
  | [] => ([], s)
  | text :: more =>
    let (reply, after) := s.execute text
    let (replies, last) := after.executeAll more
    (reply :: replies, last)

end Session

end TextTables
