import TextTables.Token.Category

/-!
# What can go wrong

Every refusal is a cause.  Its wording stands in one function, and so does the
kind that it is counted under.
-/

namespace TextTables

/-- Refusals of the file system, as it words them. -/
inductive PlaceFault where
  | missing
  | occupied
  | notDirectory
  | isDirectory
  | nameTooLong
  | nulInName
  | notText
deriving Repr, DecidableEq

namespace PlaceFault

/-- The words for a refusal of the file system. -/
def message : PlaceFault → String
  | missing => "No such file or directory (os error 2)"
  | occupied => "File exists (os error 17)"
  | notDirectory => "Not a directory (os error 20)"
  | isDirectory => "Is a directory (os error 21)"
  | nameTooLong => "File name too long (os error 36)"
  | nulInName => "file name contained an unexpected NUL byte"
  | notText => "stream did not contain valid UTF-8"

end PlaceFault

/-- The kinds of causes: a fragment that is no token, the form of a statement,
its meaning for the table at hand, the state of the stored data, the file
system, the settings. -/
inductive Fault.Kind where
  | lexical
  | form
  | meaning
  | resource
  | system
  | settings
deriving Repr, DecidableEq

/-- The causes of refusals. -/
inductive Fault where
  /-- A fragment that belongs to no category. -/
  | strangeFragment (fragment : String)
  | unterminatedLiteral
  | tabInLiteral
  | emptyCommand
  | commandTooLong (limit : Nat)
  | unknownCommand
  | createWhat
  | alterHow
  | dropWhat
  | keywordExpected (keyword : String)
  | endOfCommand
  | unexpectedToken (found : String)
  | invalidName (found : String)
  | categoryExpected (wanted found : Category)
  | unexpectedValue (found : String)
  | missingSemicolon
  | afterSemicolon (found : String)
  /-- A column named twice, or named like the key, where a table is created. -/
  | columnTwice (column : String)
  | unclosedParenthesis
  | unopenedParenthesis
  | incompleteCondition
  | columnExpected (found : String)
  | valueExpected (found : String)
  | conditionContinues (found : String)
  | keyAssigned
  | keyAltered
  | columnExists (column : String)
  | columnMissing (column : String)
  | assignedColumnMissing
  | joinColumnMissing
  | valueCount (expected given : Nat)
  | unusableId
  /-- A column named twice by the values that become a header. -/
  | headingTwice (column : String)
  | noDatabaseSelected
  | databaseMissing (database : String)
  | databaseExists (database : String)
  | databaseNotCreated
  | databaseNotEmptied (database : String)
  | tableMissing (table : String)
  | tableExists (table : String)
  | tableNotCreated (table : String)
  | tableNotWritten
  | tableNotDeleted (table : String)
  | joinTableEmpty
  | system (fault : PlaceFault)
  | unreadableSettings
  /-- A key in the document of the settings has too many parts. -/
  | settingsKeyTooLong
  | invalidPort (found : String)
  | emptyStorageDirectory
  | zeroPort
  | zeroStatementLength
deriving Repr, DecidableEq

namespace Fault

/-- The kind of a cause. -/
def kind : Fault → Kind
  | strangeFragment _ => .lexical
  | unterminatedLiteral | tabInLiteral | emptyCommand | commandTooLong _
  | unknownCommand | createWhat | alterHow | dropWhat | keywordExpected _
  | endOfCommand | unexpectedToken _ | invalidName _ | categoryExpected _ _
  | unexpectedValue _ | missingSemicolon | afterSemicolon _ | columnTwice _
  | unclosedParenthesis | unopenedParenthesis | incompleteCondition
  | columnExpected _ | valueExpected _ | conditionContinues _ => .form
  | keyAssigned | keyAltered | columnExists _ | columnMissing _
  | assignedColumnMissing | joinColumnMissing | valueCount _ _ | unusableId
  | headingTwice _ => .meaning
  | noDatabaseSelected | databaseMissing _ | databaseExists _
  | databaseNotCreated | databaseNotEmptied _ | tableMissing _ | tableExists _
  | tableNotCreated _ | tableNotWritten | tableNotDeleted _ | joinTableEmpty => .resource
  | system _ => .system
  | unreadableSettings | settingsKeyTooLong | invalidPort _ | emptyStorageDirectory
  | zeroPort | zeroStatementLength => .settings

/-- The words for a cause. -/
def message : Fault → String
  | strangeFragment fragment => s!"Invalid token detected: {fragment}"
  | unterminatedLiteral => "Unterminated string literal."
  | tabInLiteral => "String literal cannot contain a tab."
  | emptyCommand => "Empty command received."
  | commandTooLong limit =>
    "Command exceeds maximum length of " ++ Nat.repr limit ++ " bytes."
  | unknownCommand => "Unknown or invalid command."
  | createWhat => "Expected TABLE or DATABASE after CREATE."
  | alterHow => "Expected ADD or DROP in ALTER TABLE."
  | dropWhat => "Expected TABLE or DATABASE in DROP command."
  | keywordExpected keyword => s!"Expected {keyword}."
  | endOfCommand => "Unexpected end of command."
  | unexpectedToken found => s!"Unexpected token: {found}"
  | invalidName found => s!"Invalid name format: {found}"
  | categoryExpected wanted found =>
    "Expected " ++ wanted.label ++ " but found " ++ found.label
  | unexpectedValue found => s!"Unexpected value: {found}"
  | missingSemicolon => "Missing semicolon at the end."
  | afterSemicolon found => s!"Unexpected token after semicolon: {found}"
  | columnTwice column => s!"Duplicate column name: {column}"
  | unclosedParenthesis => "Unmatched opening parenthesis."
  | unopenedParenthesis => "Unmatched closing parenthesis."
  | incompleteCondition => "Incomplete condition."
  | columnExpected found => s!"Expected column name in condition, found: {found}"
  | valueExpected found => s!"Expected value in condition, found: {found}"
  | conditionContinues found => s!"Unexpected token in condition: {found}"
  | keyAssigned => "Cannot update ID column."
  | keyAltered => "Cannot alter key column 'id'."
  | columnExists column => s!"Column '{column}' already exists in table."
  | columnMissing column => s!"Column '{column}' does not exist in table."
  | assignedColumnMissing => "One or more columns do not exist."
  | joinColumnMissing => "One or both columns not found."
  | valueCount expected given =>
    "Column count mismatch: Expected " ++ Nat.repr expected ++ ", but got " ++
      Nat.repr given ++ "."
  | unusableId => "Invalid ID format in table."
  | headingTwice column => s!"Duplicate column name detected: {column}"
  | noDatabaseSelected => "No database selected."
  | databaseMissing database => s!"Database '{database}' does not exist."
  | databaseExists database => s!"Database '{database}' already exists."
  | databaseNotCreated => "Could not create database."
  | databaseNotEmptied database =>
    s!"Could not delete some files in database '{database}'."
  | tableMissing table => s!"Table '{table}' does not exist."
  | tableExists table => s!"Table '{table}' already exists."
  | tableNotCreated table => s!"Could not create table '{table}'."
  | tableNotWritten => "Could not update table."
  | tableNotDeleted table => s!"Could not delete table '{table}'."
  | joinTableEmpty => "One or both tables are empty."
  | system fault => "I/O error: " ++ fault.message
  | unreadableSettings => "Configuration error: TOML parse error"
  | settingsKeyTooLong => "Configuration error: recursion limit\n"
  | invalidPort found => s!"Configuration error: Invalid TABDB_PORT: {found}"
  | emptyStorageDirectory => "Configuration error: Storage directory cannot be empty"
  | zeroPort => "Configuration error: Port must be greater than 0"
  | zeroStatementLength =>
    "Configuration error: Max statement length must be greater than 0"

end Fault

end TextTables
