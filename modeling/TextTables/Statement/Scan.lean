import TextTables.Attempt
import TextTables.Condition.Reading

/-!
# Scanning tokens

A scan takes tokens off the front of a list.  It leaves the rest behind also
when it fails, so a scan that is tried after a failure goes on from there.
-/

namespace TextTables

/-- An attempt to read something from the tokens that are left. -/
abbrev Scan (α : Type) := Attempt (List Token) α

namespace Scan

open Attempt (fail)
open Text (sameWord)

/-- Takes the next token if it has this category and value; says whether it did. -/
def accept (category : Category) (value : String) : Scan Bool
  | [] => (.ok false, [])
  | token :: rest =>
    if token.is category value then (.ok true, rest) else (.ok false, token :: rest)

/-- Takes a keyword that has to stand here; leaves any other token. -/
def keyword (word : String) : Scan Unit := do
  if ← accept .keyword word then return () else fail (.keywordExpected word)

/-- Takes the next token, whatever it is. -/
def next : Scan Token
  | [] => (.error .endOfCommand, [])
  | token :: rest => (.ok token, rest)

/-- The value of a token of one of the categories.  The mark `*` and the words
`TRUE` and `FALSE` are values everywhere, the words in capitals. -/
def valueOf (categories : List Category) (token : Token) : Except Fault String :=
  if token.value == "*" then .ok token.value
  else if sameWord token.value "TRUE" || sameWord token.value "FALSE" then
    .ok (Text.capitals token.value)
  else if !categories.contains token.category then .error (.unexpectedToken token.value)
  else if token.category == .identifier && !Token.isName token.value then
    .error (.invalidName token.value)
  else .ok token.value

/-- The name that a token is, of a database, a table or a column. -/
def nameOf (token : Token) : Except Fault String :=
  match valueOf [.identifier] token with
  | .error fault => .error fault
  | .ok found =>
    if found == "*" || found == "TRUE" || found == "FALSE" then .error (.invalidName found)
    else .ok found

/-- Takes the value of a token of one of the categories. -/
def value (categories : List Category) : Scan String := do
  Attempt.ofExcept (valueOf categories (← next))

/-- Takes a name. -/
def name : Scan String := do
  Attempt.ofExcept (nameOf (← next))

/-- Takes a literal value or a bare word. -/
def item : Scan String :=
  value [.string, .number, .identifier]

/-- Whether a token has this category and value, or why not. -/
def markOf (category : Category) (text : String) (token : Token) : Except Fault Unit :=
  if token.category != category then .error (.categoryExpected category token.category)
  else if sameWord token.value text then .ok ()
  else .error (.unexpectedValue token.value)

/-- Takes a token that has to have this category and value, and takes it also
when it has not. -/
def mark (category : Category) (text : String) : Scan Unit := do
  Attempt.ofExcept (markOf category text (← next))

/-- Takes at most `bound` entries, one or more, with commas between them.  Each
entry is told those before it, the last one first. -/
def listUpTo (entry : List α → Scan α) : Nat → List α → Scan (List α)
  | 0, before => return before.reverse
  | bound + 1, before => do
    let found ← entry before
    if ← accept .symbol "," then
      listUpTo entry bound (found :: before)
    else
      return (found :: before).reverse

/-- Takes entries with commas between them, one or more.  Every comma is a token,
so there is one entry more than tokens at most. -/
def list (entry : List α → Scan α) : Scan (List α) :=
  fun tokens => listUpTo entry (tokens.length + 1) [] tokens

/-- The tokens up to a semicolon or to the end, and those from there.  Inside,
parentheses have to be balanced; `depth` of them are open. -/
def clauseTokens (depth : Nat) : Scan (List Token)
  | [] => (if depth == 0 then .ok [] else .error .unclosedParenthesis, [])
  | token :: rest =>
    if token.is .symbol ";" then
      (if depth == 0 then .ok [] else .error .unclosedParenthesis, token :: rest)
    else if token.is .symbol "(" then
      let (inside, left) := clauseTokens (depth + 1) rest
      (inside.map (token :: ·), left)
    else if token.is .symbol ")" then
      match depth with
      | 0 => (.error .unopenedParenthesis, token :: rest)
      | depth + 1 =>
        let (inside, left) := clauseTokens depth rest
        (inside.map (token :: ·), left)
    else
      let (inside, left) := clauseTokens depth rest
      (inside.map (token :: ·), left)

/-- The condition that the tokens of a clause are.  No tokens are no condition. -/
def clauseOf : List Token → Except Fault (Option Condition)
  | [] => .ok none
  | tokens => (Condition.ofTokens tokens).map some

/-- Takes the condition of a statement, if it has one. -/
def condition : Scan (Option Condition) := do
  if ← accept .keyword "WHERE" then
    Attempt.ofExcept (clauseOf (← clauseTokens 0))
  else
    return none

/-- Nothing may be left. -/
def nothingLeft : Scan Unit
  | [] => (.ok (), [])
  | token :: rest => (.error (.afterSemicolon token.value), token :: rest)

/-- Takes the semicolon at the end; nothing may follow it. -/
def finish : Scan Unit := do
  if ← accept .symbol ";" then nothingLeft else fail .missingSemicolon

end Scan

end TextTables
