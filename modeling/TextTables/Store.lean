import TextTables.Fault
import TextTables.Text.Lower

/-!
# Stores of tables

A store keeps databases, and in them tables as lines of text.  Names of
databases and tables are the same if their lower case is.  An operation that
changes a store answers with the store as it is afterwards, also when it fails:
a failure may come after part of the work.
-/

namespace TextTables

/-- The answer of an operation on a store, and the store afterwards. -/
abbrev Outcome (σ : Type) := Except Fault Unit × σ

/-- What a store of tables can do. -/
class Store (σ : Type) where
  /-- The lines of a table; none if there is no such table. -/
  read : σ → (database table : String) → List String
  /-- Replaces the lines of a table that is there. -/
  write : σ → (database table : String) → (lines : List String) → Outcome σ
  /-- Adds a table of one line, the header. -/
  createTable : σ → (database table : String) → (header : List String) → Outcome σ
  /-- Takes a table out. -/
  dropTable : σ → (database table : String) → Outcome σ
  /-- Adds a database without tables. -/
  createDatabase : σ → (database : String) → Outcome σ
  /-- Whether there is such a database. -/
  databaseExists : σ → (database : String) → Bool
  /-- Takes a database out with all its tables. -/
  dropDatabase : σ → (database : String) → Outcome σ
  /-- The names of the tables of a database, in order. -/
  tables : σ → (database : String) → Except Fault (List String)

/-- The name under which a store keeps a database or a table. -/
def storedName (name : String) : String :=
  Text.lower name

end TextTables
