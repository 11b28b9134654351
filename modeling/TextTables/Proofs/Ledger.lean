import TextTables.Reply
import TextTables.Statement.Reading
import TextTables.Store
import TextTables.Dict
import TextTables.Table.Change

/-!
# Ledgers

A ledger is what a session over a catalog stands for: it keeps every table as a
value, a header and rows of cells, and carries out statements on these values
directly.  No line of text is made or taken apart.  A refused statement gives no
new ledger at all.
-/

namespace TextTables

/-- The tables of each database, and the name of the database selected. -/
structure Ledger where
  databases : Dict (Dict Table)
  selected : Option String

namespace Ledger

/-- No databases. -/
def empty : Ledger :=
  ⟨.empty, none⟩

/-! ## Looking up -/

/-- The tables of a database. -/
def tables? (l : Ledger) (database : String) : Option (Dict Table) :=
  l.databases.get? (storedName database)

/-- A table of a database. -/
def table? (l : Ledger) (database name : String) : Option Table := do
  (← l.tables? database).get? (storedName name)

/-- The name of the selected database. -/
def current (l : Ledger) : Except Fault String :=
  match l.selected with
  | some database => .ok database
  | none => .error .noDatabaseSelected

/-- A table of the selected database. -/
def table (l : Ledger) (name : String) : Except Fault Table := do
  match l.table? (← l.current) name with
  | some found => .ok found
  | none => .error (.tableMissing name)

/-! ## Databases -/

/-- A ledger with the tables of a database replaced. -/
def put (l : Ledger) (database : String) (tables : Dict Table) : Ledger :=
  { l with databases := l.databases.insert (storedName database) tables }

/-- Selects a database that is there. -/
def use (l : Ledger) (database : String) : Except Fault Ledger :=
  if l.databases.contains (storedName database) then
    .ok { l with selected := some database }
  else
    .error (.databaseMissing database)

/-- Adds a database without tables. -/
def createDatabase (l : Ledger) (database : String) : Except Fault Ledger :=
  if l.databases.contains (storedName database) then .error (.databaseExists database)
  else .ok (l.put database .empty)

/-- Forgets the selection if it is this database. -/
def deselect (l : Ledger) (database : String) : Ledger :=
  { l with selected := l.selected.filter fun selected => !Text.sameWord selected database }

/-- Takes a database out. -/
def eraseDatabase (l : Ledger) (database : String) : Except Fault Ledger :=
  if l.databases.contains (storedName database) then
    .ok { l with databases := l.databases.erase (storedName database) }
  else
    .error (.databaseMissing database)

/-- Takes a database out, and the selection with it. -/
def dropDatabase (l : Ledger) (database : String) : Except Fault Ledger :=
  (l.eraseDatabase database).map fun next => next.deselect database

/-! ## Tables -/

/-- Adds a table without rows to a database. -/
def createTableIn (l : Ledger) (database name : String) (columns : List String) :
    Except Fault Ledger :=
  match l.tables? database with
  | none => .error (.databaseMissing database)
  | some tables =>
    if tables.contains (storedName name) then .error (.tableExists name)
    else
      .ok (l.put database (tables.insert (storedName name) ⟨Table.keyColumn :: columns, []⟩))

/-- Replaces a table of a database. -/
def replaceIn (l : Ledger) (database name : String) (t : Table) : Except Fault Ledger :=
  match l.tables? database with
  | none => .error (.tableMissing name)
  | some tables =>
    if tables.contains (storedName name) then
      .ok (l.put database (tables.insert (storedName name) t))
    else
      .error (.tableMissing name)

/-- Takes a table out of a database. -/
def dropTableIn (l : Ledger) (database name : String) : Except Fault Ledger :=
  match l.tables? database with
  | none => .error (.tableMissing name)
  | some tables =>
    if tables.contains (storedName name) then
      .ok (l.put database (tables.erase (storedName name)))
    else
      .error (.tableMissing name)

/-- Adds a table without rows to the selected database. -/
def createTable (l : Ledger) (name : String) (columns : List String) :
    Except Fault Ledger := do
  l.createTableIn (← l.current) name columns

/-- Takes a table out of the selected database. -/
def dropTable (l : Ledger) (name : String) : Except Fault Ledger := do
  l.dropTableIn (← l.current) name

/-- Changes a table of the selected database. -/
def change (l : Ledger) (name : String) (f : Table → Except Fault Table) :
    Except Fault Ledger := do
  let found ← l.table name
  let changed ← f found
  l.replaceIn (← l.current) name changed

/-- Adds a row to a table of the selected database.  Where there is no such table,
the values are still looked through as headings first. -/
def insert (l : Ledger) (name : String) (values : List String) : Except Fault Ledger := do
  let database ← l.current
  match l.table? database name with
  | some found => l.replaceIn database name (← found.insert values)
  | none =>
    let _ ← Table.headerOf values
    .error (.tableMissing name)

/-! ## Queries -/

/-- Answers a query of one table. -/
def select (l : Ledger) (name : String) (columns : Selection)
    (condition : Option Condition) : Except Fault Table := do
  let found ← l.table name
  found.select columns condition

/-- Answers a query of two tables. -/
def join (l : Ledger) (left right leftColumn rightColumn : String) :
    Except Fault Table := do
  let database ← l.current
  match l.table? database left, l.table? database right with
  | some leftTable, some rightTable =>
    leftTable.join rightTable left right leftColumn rightColumn
  | _, _ => .error .joinTableEmpty

/-! ## Statements -/

/-- What a statement makes of a ledger, and what it is answered with. -/
def step (l : Ledger) : Statement → Except Fault (Reply × Ledger)
  | .use database => return (.done, ← l.use database)
  | .createDatabase database => return (.done, ← l.createDatabase database)
  | .createTable name columns => return (.done, ← l.createTable name columns)
  | .insert name values => return (.done, ← l.insert name values)
  | .select name columns condition => return (.rows (← l.select name columns condition), l)
  | .update name assignments condition =>
    return (.done, ← l.change name fun t => t.update assignments condition)
  | .delete name condition => return (.done, ← l.change name fun t => .ok (t.delete condition))
  | .alter name change column =>
    return (.done, ← l.change name fun t => t.alter change column)
  | .dropTable name => return (.done, ← l.dropTable name)
  | .dropDatabase database => return (.done, ← l.dropDatabase database)
  | .join left right leftColumn rightColumn =>
    return (.rows (← l.join left right leftColumn rightColumn), l)

/-- Carries out a statement, or refuses it and stays as it was. -/
def perform (l : Ledger) (statement : Statement) : Reply × Ledger :=
  match l.step statement with
  | .ok next => next
  | .error fault => (.refused fault, l)

/-- Carries out the text of a statement. -/
def execute (l : Ledger) (text : String) : Reply × Ledger :=
  if Text.allBlank text then (.refused .emptyCommand, l)
  else
    match Statement.ofText text with
    | .error fault => (.refused fault, l)
    | .ok statement => l.perform statement

/-- The ledger after some texts, one after another. -/
def afterAll (l : Ledger) : List String → Ledger
  | [] => l
  | text :: more => (l.execute text).2.afterAll more

/-- The replies to texts given one after another, each with the selection after it. -/
def transcript (l : Ledger) : List String → List (Reply × Option String)
  | [] => []
  | text :: more =>
    let (reply, next) := l.execute text
    (reply, next.selected) :: next.transcript more

end Ledger

end TextTables
