import TextTables.Fault
import TextTables.Table

/-!
# Replies

What a command is answered with, and the text of the answer.
-/

namespace TextTables

/-- The answer to a command. -/
inductive Reply where
  /-- The command was carried out. -/
  | done
  /-- The command was a query, and these are the rows found. -/
  | rows (found : Table)
  /-- The command was refused. -/
  | refused (cause : Fault)
deriving Repr, DecidableEq

namespace Reply

/-- Whether the command was carried out. -/
def isAccepted : Reply → Bool
  | done | rows _ => true
  | refused _ => false

/-- The number of rows found, where a query was answered. -/
def rowCount? : Reply → Option Nat
  | rows found => some found.rows.length
  | done | refused _ => none

/-- An answer as text.  Rows follow the first line, each on a line of its own. -/
def toText : Reply → String
  | done => "[OK]"
  | rows found => "\n".intercalate ("[OK]" :: found.toLines)
  | refused cause => "[ERROR] " ++ cause.message

end Reply

end TextTables
