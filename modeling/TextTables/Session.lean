import TextTables.Attempt
import TextTables.Dict
import TextTables.Store
import TextTables.Table

/-!
# Sessions

A session works on a store.  It remembers which database is selected and, for
each database that was selected before, the tables that it knows there.
-/

namespace TextTables

/-- A store, the database selected, and the tables known in each database. -/
structure Session (σ : Type) where
  store : σ
  selected : Option String
  known : Dict (List String)

/-- An attempt to do something in a session. -/
abbrev Action (σ α : Type) := Attempt (Session σ) α

namespace Session

variable {σ : Type}

/-- A session in which nothing is selected or known. -/
def start (store : σ) : Session σ :=
  ⟨store, none, .empty⟩

/-- The known tables of the selected database. -/
def knownTables (s : Session σ) : List String :=
  match s.selected with
  | none => []
  | some database => (s.known.get? (storedName database)).getD []

/-- Adds a table to those known in a database. -/
def addKnown (s : Session σ) (database table : String) : Session σ :=
  let tables := (s.known.get? (storedName database)).getD []
  let tables :=
    if tables.contains (storedName table) then tables else tables ++ [storedName table]
  { s with known := s.known.insert (storedName database) tables }

/-- Takes a table out of those known in a database. -/
def dropKnown (s : Session σ) (database table : String) : Session σ :=
  match s.known.get? (storedName database) with
  | none => s
  | some tables =>
    let tables := tables.filter fun other => !Text.sameWord other table
    { s with known := s.known.insert (storedName database) tables }

/-- Forgets the tables known in a database, and the selection if it is that
database. -/
def dropDatabase (s : Session σ) (database : String) : Session σ :=
  let s := { s with known := s.known.erase (storedName database) }
  match s.selected with
  | none => s
  | some selected =>
    if Text.sameWord selected database then { s with selected := none } else s

end Session

namespace Action

open Attempt (fail ofExcept)

variable {σ : Type}

/-- The selected database. -/
def current : Action σ String := do
  match (← Attempt.state).selected with
  | some database => return database
  | none => fail .noDatabaseSelected

/-- Carries out an operation on the store. -/
def change (operation : σ → Outcome σ) : Action σ Unit :=
  fun s =>
    let (result, store) := operation s.store
    (result, { s with store := store })

variable [Store σ]

/-- The lines of a table of the selected database. -/
def lines (table : String) : Action σ (List String) := do
  let database ← current
  return Store.read (← Attempt.state).store database table

/-- The table that lines hold.  One without lines counts as missing. -/
def tableOf (name : String) (lines : List String) : Except Fault Table :=
  match Table.ofLines? lines with
  | some found => .ok found
  | none => .error (.tableMissing name)

/-- A table of the selected database. -/
def table (name : String) : Action σ Table := do
  ofExcept (tableOf name (← lines name))

/-- Replaces the lines of a table of the selected database. -/
def put (name : String) (lines : List String) : Action σ Unit := do
  let database ← current
  change fun store => Store.write store database name lines

end Action

end TextTables
