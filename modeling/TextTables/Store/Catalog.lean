import TextTables.Dict
import TextTables.Row
import TextTables.Store

/-!
# Tables kept in memory

A catalog holds the lines of each table of each database.  Its operations do
all of their work or none.
-/

namespace TextTables

/-- Databases, their tables, and the lines of each. -/
structure Catalog where
  databases : Dict (Dict (List String))

namespace Catalog

/-- No databases. -/
def empty : Catalog :=
  ⟨.empty⟩

/-- The tables of a database. -/
def database? (c : Catalog) (database : String) : Option (Dict (List String)) :=
  c.databases.get? (storedName database)

/-- The lines of a table. -/
def table? (c : Catalog) (database table : String) : Option (List String) := do
  (← c.database? database).get? (storedName table)

/-- A catalog with the tables of a database replaced. -/
def put (c : Catalog) (database : String) (tables : Dict (List String)) : Catalog :=
  ⟨c.databases.insert (storedName database) tables⟩

/-- The lines of a table; none if there is no such table. -/
def read (c : Catalog) (database table : String) : List String :=
  (c.table? database table).getD []

/-- Replaces the lines of a table. -/
def write (c : Catalog) (database table : String) (lines : List String) : Outcome Catalog :=
  match c.database? database with
  | none => (.error (.tableMissing table), c)
  | some tables =>
    if tables.contains (storedName table) then
      (.ok (), c.put database (tables.insert (storedName table) lines))
    else
      (.error (.tableMissing table), c)

/-- Adds a table of one line, the header. -/
def createTable (c : Catalog) (database table : String) (header : List String) :
    Outcome Catalog :=
  match c.database? database with
  | none => (.error (.databaseMissing database), c)
  | some tables =>
    if tables.contains (storedName table) then (.error (.tableExists table), c)
    else (.ok (), c.put database (tables.insert (storedName table) [Row.toLine header]))

/-- Takes a table out. -/
def dropTable (c : Catalog) (database table : String) : Outcome Catalog :=
  match c.database? database with
  | none => (.error (.tableMissing table), c)
  | some tables =>
    if tables.contains (storedName table) then
      (.ok (), c.put database (tables.erase (storedName table)))
    else
      (.error (.tableMissing table), c)

/-- Whether there is such a database. -/
def databaseExists (c : Catalog) (database : String) : Bool :=
  c.databases.contains (storedName database)

/-- Adds a database without tables. -/
def createDatabase (c : Catalog) (database : String) : Outcome Catalog :=
  if c.databaseExists database then (.error (.databaseExists database), c)
  else (.ok (), c.put database .empty)

/-- Takes a database out with all its tables. -/
def dropDatabase (c : Catalog) (database : String) : Outcome Catalog :=
  if c.databaseExists database then
    (.ok (), ⟨c.databases.erase (storedName database)⟩)
  else
    (.error (.databaseMissing database), c)

/-- The names of the tables of a database, in order. -/
def tables (c : Catalog) (database : String) : Except Fault (List String) :=
  match c.database? database with
  | none => .error (.databaseMissing database)
  | some tables => .ok tables.keys

/-- The number of databases. -/
def size (c : Catalog) : Nat :=
  c.databases.size

instance : Store Catalog where
  read := read
  write := write
  createTable := createTable
  dropTable := dropTable
  createDatabase := createDatabase
  databaseExists := databaseExists
  dropDatabase := dropDatabase
  tables := tables

end Catalog

end TextTables
