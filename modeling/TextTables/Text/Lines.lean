/-!
# Lines of a text

A line ends with a line feed, and a carriage return before the line feed belongs
to the end of the line too.  What follows the last line feed is a line if it is
not empty.
-/

namespace TextTables.Text

/-- A piece that ended with a line feed, without the carriage return before it. -/
def dropReturn (cs : List Char) : List Char :=
  if cs.getLast? == some '\r' then cs.dropLast else cs

/-- The lines of a text given as characters. -/
def linesOfChars (cs : List Char) : List (List Char) :=
  let pieces := cs.splitOn '\n'
  let rest := pieces.getLast?.getD []
  pieces.dropLast.map dropReturn ++ if rest.isEmpty then [] else [rest]

/-- The lines of a text. -/
def lines (s : String) : List String :=
  (linesOfChars s.toList).map String.ofList

/-- A text of lines, each with its line feed. -/
def ofLines (items : List String) : String :=
  String.join (items.map (· ++ "\n"))

end TextTables.Text
