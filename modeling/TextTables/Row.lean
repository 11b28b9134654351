import TextTables.Text.Words

/-!
# Rows of cells

A row, and the header of a table too, is a list of cells.  Written on a line,
its cells stand between tabs.  Rows may be shorter or longer than the header
above them; a cell that is asked for and is not there is `NULL`.
-/

namespace TextTables.Row

/-- The cell of a row in which nothing was put. -/
def null : String := "NULL"

/-- The cells of a line.  Every line has at least one. -/
def ofLine (line : String) : List String :=
  (line.toList.splitOn '\t').map String.ofList

/-- Cells on one line. -/
def toLine (cells : List String) : String :=
  "\t".intercalate cells

/-- The cell at a place. -/
def cellAt (cells : List String) (place : Nat) : String :=
  (cells[place]?).getD null

/-- The cells at several places. -/
def project (places : List Nat) (cells : List String) : List String :=
  places.map (cellAt cells)

/-- A row made at least as long as asked for. -/
def pad (width : Nat) (cells : List String) : List String :=
  cells ++ List.replicate (width - cells.length) null

/-- Puts values at places, one after another. -/
def assign (values : List (Nat × String)) (cells : List String) : List String :=
  values.foldl (fun cells (place, value) => cells.set place value) cells

/-- The place of a column in a header: that of the first heading of this name,
in any case. -/
def columnIndex? (header : List String) (column : String) : Option Nat :=
  header.findIdx? fun heading => Text.sameWord heading column

end TextTables.Row
