import TextTables.Statement
import TextTables.Statement.Scan

/-!
# Reading statements

One routine for each command.  A routine can be run anywhere in a list of
tokens; the routine for any command looks at the beginning of the list to see
which one it is.
-/

namespace TextTables.Statement

open Attempt (fail)
open Scan Text

/-- Reads `USE`. -/
def readUse : Scan Statement := do
  keyword "USE"
  let database ← name
  finish
  return .use database

/-- Reads `CREATE DATABASE`. -/
def readCreateDatabase : Scan Statement := do
  keyword "CREATE"
  keyword "DATABASE"
  let database ← name
  finish
  return .createDatabase database

/-- Reads the name of a column of a new table.  It differs from the key and from
the names before it. -/
def newColumn (before : List String) : Scan String := do
  let column ← name
  if sameWord column "id" || before.any (sameWord · column) then
    fail (.columnTwice column)
  else
    return column

/-- Reads the columns of a new table, in parentheses; there may be none. -/
def newColumns : Scan (List String) := do
  if ← accept .symbol "(" then
    let columns ← list newColumn
    mark .symbol ")"
    return columns
  else
    return []

/-- Reads `CREATE TABLE`. -/
def readCreateTable : Scan Statement := do
  keyword "CREATE"
  keyword "TABLE"
  let table ← name
  let columns ← newColumns
  finish
  return .createTable table columns

/-- Reads `INSERT`. -/
def readInsert : Scan Statement := do
  keyword "INSERT"
  keyword "INTO"
  let table ← name
  keyword "VALUES"
  mark .symbol "("
  let values ← list fun _ => item
  mark .symbol ")"
  finish
  return .insert table values

/-- Reads the columns of a query. -/
def selection : Scan Selection := do
  if ← accept .symbol "*" then
    return .all
  else
    return .columns (← list fun _ => name)

/-- Reads `SELECT`. -/
def readSelect : Scan Statement := do
  keyword "SELECT"
  let columns ← selection
  mark .keyword "FROM"
  let table ← name
  let rows ← condition
  finish
  return .select table columns rows

/-- Reads the assignment of a value to a column other than the key. -/
def assignment : Scan (String × String) := do
  let column ← name
  if sameWord column "id" then
    fail .keyAssigned
  else
    mark .symbol "="
    let assigned ← item
    return (column, assigned)

/-- Reads `UPDATE`. -/
def readUpdate : Scan Statement := do
  keyword "UPDATE"
  let table ← name
  keyword "SET"
  let assignments ← list fun _ => assignment
  let rows ← condition
  finish
  return .update table assignments rows

/-- Reads `DELETE`. -/
def readDelete : Scan Statement := do
  keyword "DELETE"
  keyword "FROM"
  let table ← name
  let rows ← condition
  finish
  return .delete table rows

/-- Reads what an alteration does. -/
def alteration : Scan Alteration := do
  if ← accept .keyword "ADD" then
    return .add
  else if ← accept .keyword "DROP" then
    return .drop
  else
    fail .alterHow

/-- Reads `ALTER TABLE`. -/
def readAlter : Scan Statement := do
  keyword "ALTER"
  keyword "TABLE"
  let table ← name
  let change ← alteration
  let column ← name
  finish
  return .alter table change column

/-- Reads what is dropped, and its name. -/
def dropped : Scan Statement := do
  let object ← value [.keyword]
  if sameWord object "TABLE" then
    return .dropTable (← name)
  else if sameWord object "DATABASE" then
    return .dropDatabase (← name)
  else
    fail .dropWhat

/-- Reads `DROP`. -/
def readDrop : Scan Statement := do
  keyword "DROP"
  let statement ← dropped
  finish
  return statement

/-- Reads `JOIN`. -/
def readJoin : Scan Statement := do
  keyword "JOIN"
  let left ← name
  mark .logicalOperator "AND"
  let right ← name
  mark .keyword "ON"
  let leftColumn ← name
  mark .logicalOperator "AND"
  let rightColumn ← name
  finish
  return .join left right leftColumn rightColumn

/-- The forms of statements, each with a routine of its own. -/
inductive Form where
  | use
  | createDatabase
  | createTable
  | insert
  | select
  | update
  | delete
  | alter
  | drop
  | join
deriving Repr, DecidableEq

namespace Form

/-- The forms that one keyword tells, with that keyword. -/
def keywords : List (String × Form) :=
  [("USE", use), ("INSERT", insert), ("SELECT", select), ("UPDATE", update),
   ("DELETE", delete), ("ALTER", alter), ("DROP", drop), ("JOIN", join)]

/-- The form of statement that tokens begin with.  `CREATE` needs a second
keyword to tell it. -/
def ofTokens : List Token → Except Fault Form
  | [] => .error .unknownCommand
  | first :: rest =>
    if first.category != .keyword then .error .unknownCommand
    else if sameWord first.value "CREATE" then
      match rest with
      | second :: _ =>
        if second.is .keyword "DATABASE" then .ok createDatabase
        else if second.is .keyword "TABLE" then .ok createTable
        else .error .createWhat
      | [] => .error .createWhat
    else
      match keywords.find? fun entry => sameWord first.value entry.1 with
      | some (_, form) => .ok form
      | none => .error .unknownCommand

/-- The routine that reads a form. -/
def scan : Form → Scan Statement
  | use => readUse
  | createDatabase => readCreateDatabase
  | createTable => readCreateTable
  | insert => readInsert
  | select => readSelect
  | update => readUpdate
  | delete => readDelete
  | alter => readAlter
  | drop => readDrop
  | join => readJoin

end Form

/-- What can be asked of tokens: a statement of any form, or one of a given form. -/
inductive Routine where
  | any
  | single (form : Form)
deriving Repr, DecidableEq

namespace Routine

/-- Runs a routine on the tokens that are left of `stream`.  The beginning of the
whole stream tells the form, wherever the scan has got to. -/
def scan (stream : List Token) : Routine → Scan Statement
  | any => do
    let form ← Attempt.ofExcept (Form.ofTokens stream)
    form.scan
  | single form => form.scan

/-- Runs routines one after another on the tokens that are left of `stream`. -/
def scanAll (stream : List Token) :
    List Routine → List Token → List (Except Fault Statement)
  | [], _ => []
  | routine :: more, tokens =>
    let (answer, left) := (routine.scan stream).run tokens
    answer :: scanAll stream more left

end Routine

/-- Reads a statement from all of the tokens. -/
def ofTokens (tokens : List Token) : Except Fault Statement :=
  ((Routine.any.scan tokens).run tokens).1

/-- Reads the text of a statement. -/
def ofText (s : String) : Except Fault Statement := do
  ofTokens (← Token.ofText s)

end TextTables.Statement
