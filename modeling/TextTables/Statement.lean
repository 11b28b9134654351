import TextTables.Condition

/-!
# Statements

The commands of the statement language, as they are understood once they have
been read.
-/

namespace TextTables

/-- The columns that a query asks for. -/
inductive Selection where
  | all
  | columns (names : List String)
deriving Repr, DecidableEq

/-- What happens to a column of a table. -/
inductive Alteration where
  | add
  | drop
deriving Repr, DecidableEq

/-- A command.  Values and assigned values are as written, with their quotes. -/
inductive Statement where
  | use (database : String)
  | createDatabase (database : String)
  | createTable (table : String) (columns : List String)
  | insert (table : String) (values : List String)
  | select (table : String) (columns : Selection) (condition : Option Condition)
  | update (table : String) (assignments : List (String × String))
      (condition : Option Condition)
  | delete (table : String) (condition : Option Condition)
  | alter (table : String) (change : Alteration) (column : String)
  | dropTable (table : String)
  | dropDatabase (database : String)
  | join (left right leftColumn rightColumn : String)
deriving Repr, DecidableEq

end TextTables
