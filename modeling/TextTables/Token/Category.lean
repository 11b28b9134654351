/-!
# Categories of tokens
-/

namespace TextTables

/-- What a token of the statement language is. -/
inductive Category where
  | keyword
  | identifier
  | symbol
  | operator
  | logicalOperator
  | number
  | string
deriving Repr, DecidableEq

namespace Category

/-- The name of a category in messages. -/
def label : Category → String
  | keyword => "KEYWORD"
  | identifier => "IDENTIFIER"
  | symbol => "SYMBOL"
  | operator => "OPERATOR"
  | logicalOperator => "LOGICAL_OPERATOR"
  | number => "NUMBER"
  | string => "STRING"

/-- The category that a name stands for. -/
def ofLabel? (name : String) : Option Category :=
  [keyword, identifier, symbol, operator, logicalOperator, number, string].find?
    fun category => category.label == name

theorem ofLabel?_label (category : Category) :
    ofLabel? category.label = some category := by
  cases category <;> decide

end Category

end TextTables
