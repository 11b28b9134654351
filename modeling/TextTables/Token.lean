import TextTables.Fragment
import TextTables.Number.Decimal
import TextTables.Text.Words

/-!
# Tokens

A token is a fragment with its category.  The category is the first in a fixed
order whose form the fragment has; a fragment that has none is refused.
-/

namespace TextTables

/-- A fragment of a statement and what it is. -/
structure Token where
  category : Category
  value : String
deriving Repr, DecidableEq

namespace Token

open Text (sameWord)

/-- The words of the statement language. -/
def keywords : List String :=
  ["USE", "SELECT", "FROM", "WHERE", "SET", "INSERT", "UPDATE", "DELETE", "CREATE",
   "DROP", "TABLE", "DATABASE", "ALTER", "INTO", "VALUES", "ADD", "JOIN", "ON"]

/-- A word of the statement language, in any case. -/
def isKeyword (fragment : String) : Bool :=
  keywords.any fun keyword => sameWord fragment keyword

/-- A mark of the statement language. -/
def isSymbol (fragment : String) : Bool :=
  ["(", ")", ",", ";", "*", "="].contains fragment

/-- `AND` or `OR`, in any case. -/
def isLogicalOperator (fragment : String) : Bool :=
  sameWord fragment "AND" || sameWord fragment "OR"

/-- A comparison sign. -/
def isOperator (fragment : String) : Bool :=
  [">", "<", ">=", "<=", "==", "!="].contains fragment

/-- What stands between quotes that open and close a text. -/
def unquoted? : List Char → Option (List Char)
  | [] => none
  | c :: rest =>
    if c == Fragment.quote && rest.getLast? == some Fragment.quote then some rest.dropLast
    else none

/-- A literal: a text that opens with one quote and closes with another. -/
def isLiteral (fragment : String) : Bool :=
  (unquoted? fragment.toList).isSome

/-- The content of a literal; any other text as it is. -/
def stripQuotes (value : String) : String :=
  match unquoted? value.toList with
  | some content => String.ofList content
  | none => value

/-- A character of names. -/
def isNameChar (c : Char) : Bool :=
  c.isAlphanum || c == '_'

/-- A name: letters `A` to `Z` and `a` to `z`, digits and underscores. -/
def isName (fragment : String) : Bool :=
  !fragment.toList.isEmpty && fragment.toList.all isNameChar

/-- The category of a fragment. -/
def classify (fragment : String) : Except Fault Category :=
  if isKeyword fragment then .ok .keyword
  else if isSymbol fragment then .ok .symbol
  else if isLogicalOperator fragment then .ok .logicalOperator
  else if isOperator fragment then .ok .operator
  else if Decimal.isNumeral fragment then .ok .number
  else if isLiteral fragment then .ok .string
  else if isName fragment then .ok .identifier
  else .error (.strangeFragment fragment)

/-- The token that a fragment is. -/
def ofFragment (fragment : String) : Except Fault Token :=
  (classify fragment).map fun category => ⟨category, fragment⟩

/-- The tokens of a statement; the first fragment that is none decides. -/
def ofText (s : String) : Except Fault (List Token) := do
  let fragments ← Fragment.ofText s
  fragments.mapM ofFragment

/-- Whether a token has a category and a value, in any case. -/
def is (token : Token) (category : Category) (value : String) : Bool :=
  token.category == category && sameWord token.value value

/-- A token as text: its category and its value. -/
def toText (token : Token) : String :=
  token.category.label ++ "('" ++ token.value ++ "')"

end Token

end TextTables
