import TextTables.Condition
import TextTables.Token

/-!
# Reading conditions

Conditions are read from tokens from left to right.  `AND` binds tighter than
`OR`, both group to the left, and parentheses group anything.  The reader keeps
what it has read so far in groups, one for each parenthesis that is not yet
closed, so it looks at each token once.
-/

namespace TextTables.Condition

/-- What stands before the operand that comes next: the alternative up to the
last `OR`, and the conjunction since, up to an `AND`. -/
structure Group where
  alternative : Option Condition
  conjunction : Option Condition

namespace Group

/-- A group in which nothing is read yet. -/
def start : Group := ⟨none, none⟩

/-- The conjunction of a group with one more operand. -/
def conjoin (group : Group) (operand : Condition) : Condition :=
  match group.conjunction with
  | some left => both left operand
  | none => operand

/-- The whole of a group whose last conjunction is complete. -/
def close (group : Group) (conjunction : Condition) : Condition :=
  match group.alternative with
  | some left => either left conjunction
  | none => conjunction

end Group

/-- The categories that a literal in a condition may have. -/
def isLiteralCategory (category : Category) : Bool :=
  category == .string || category == .number || category == .identifier

/-- Where the reader stands. -/
inductive Reading where
  /-- An operand comes next: a test or an opening parenthesis. -/
  | operand (group : Group)
  /-- An operand has just ended; `conjunction` is complete up to here. -/
  | junction (group : Group) (conjunction : Condition)

/-- Reads on from where the reader stands, inside the groups `around`. -/
def readOn (reading : Reading) (around : List Group) :
    List Token → Except Fault Condition
  | [] =>
    match reading, around with
    | .operand _, _ => .error .incompleteCondition
    | .junction _ _, _ :: _ => .error .unclosedParenthesis
    | .junction group conjunction, [] => .ok (group.close conjunction)
  | token :: rest =>
    match reading with
    | .operand group =>
      if token.is .symbol "(" then readOn (.operand .start) (group :: around) rest
      else if token.category != .identifier then .error (.columnExpected token.value)
      else
        match rest with
        | sign :: literal :: rest =>
          if isLiteralCategory literal.category then
            let operand := test token.value sign.value (Token.stripQuotes literal.value)
            readOn (.junction group (group.conjoin operand)) around rest
          else
            .error (.valueExpected literal.value)
        | _ => .error .incompleteCondition
    | .junction group conjunction =>
      if token.is .logicalOperator "AND" then
        readOn (.operand ⟨group.alternative, some conjunction⟩) around rest
      else if token.is .logicalOperator "OR" then
        readOn (.operand ⟨some (group.close conjunction), none⟩) around rest
      else
        match around with
        | [] => .error (.conditionContinues token.value)
        | outer :: around =>
          if token.is .symbol ")" then
            let operand := group.close conjunction
            readOn (.junction outer (outer.conjoin operand)) around rest
          else
            .error .unclosedParenthesis

/-- Reads a condition from all of the tokens. -/
def ofTokens (tokens : List Token) : Except Fault Condition :=
  readOn (.operand .start) [] tokens

end TextTables.Condition
