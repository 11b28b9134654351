import Mathlib
import TextTables.Statement.Reading

/-!
# The grammar of statements

For each form of statement, the sequences of tokens that spell it, and the statement
that each of them spells.  Nothing here says how tokens are read: a phrase is a whole
list of tokens with what it stands for, and a statement is put together from phrases.
The last token is the only semicolon.
-/

namespace TextTables

open Text (sameWord)

namespace Token

/-- One of the words `TRUE` and `FALSE`, in any case. -/
def IsTruth (token : Token) : Prop :=
  sameWord token.value "TRUE" = true ∨ sameWord token.value "FALSE" = true

instance (token : Token) : Decidable token.IsTruth :=
  inferInstanceAs (Decidable (_ ∨ _))

/-- An identifier, other than `TRUE` and `FALSE`, is a name. -/
structure Names (token : Token) (name : String) : Prop where
  category_eq : token.category = .identifier
  not_isTruth : ¬token.IsTruth
  value_eq : token.value = name

/-- What a token stands for where a value is expected. -/
inductive Gives : Token → String → Prop
  | star {token : Token} (hcategory : token.category = .symbol) (hstar : token.value = "*") :
      Gives token "*"
  | truth {token : Token} (hcategory : token.category = .identifier)
      (htruth : token.IsTruth) : Gives token (Text.capitals token.value)
  | plain {token : Token} (hcategory : token.category ∈ [.string, .number, .identifier])
      (hplain : ¬token.IsTruth) : Gives token token.value

end Token

namespace Grammar

open Token (Names Gives)

variable {α : Type}

/-! ## Phrases -/

/-- The token is this word of the language, in any case. -/
def Word (word : String) (token : Token) : Prop :=
  token.is .keyword word = true

/-- The token is this mark. -/
def Mark (mark : String) (token : Token) : Prop :=
  token.is .symbol mark = true

/-- The token is the word `AND`, in any case. -/
def AndWord (token : Token) : Prop :=
  token.is .logicalOperator "AND" = true

instance (word : String) (token : Token) : Decidable (Word word token) :=
  inferInstanceAs (Decidable (_ = true))

instance (mark : String) (token : Token) : Decidable (Mark mark token) :=
  inferInstanceAs (Decidable (_ = true))

/-- A phrase of one token. -/
def Single (stands : Token → α → Prop) (tokens : List Token) (a : α) : Prop :=
  ∃ token, tokens = [token] ∧ stands token a

/-- Phrases with commas between them, one or more. -/
inductive Listed (phrase : List Token → α → Prop) : List Token → List α → Prop
  | last {tokens : List Token} {a : α} (hlast : phrase tokens a) : Listed phrase tokens [a]
  | more {tokens rest : List Token} {comma : Token} {a : α} {others : List α}
      (hfirst : phrase tokens a) (hcomma : Mark "," comma) (hrest : Listed phrase rest others) :
      Listed phrase (tokens ++ comma :: rest) (a :: others)

/-- Columns of a new table: none of them is the key, and no two are the same word. -/
structure AreNew (columns : List String) : Prop where
  ne_key : ∀ column ∈ columns, sameWord column "id" = false
  distinct : columns.Pairwise fun a b => sameWord a b = false

/-- The columns of a new table, in parentheses, or none. -/
inductive Columns : List Token → List String → Prop
  | absent : Columns [] []
  | given {left right : Token} {tokens : List Token} {columns : List String}
      (hleft : Mark "(" left) (hcolumns : Listed (Single Names) tokens columns)
      (hnew : AreNew columns) (hright : Mark ")" right) :
      Columns (left :: (tokens ++ [right])) columns

/-- The columns of a query. -/
inductive Selected : List Token → Selection → Prop
  | all {star : Token} (hstar : Mark "*" star) : Selected [star] .all
  | columns {tokens : List Token} {names : List String}
      (hnames : Listed (Single Names) tokens names) : Selected tokens (.columns names)

/-- A column other than the key, with the value that it is given. -/
inductive Assigned : List Token → String × String → Prop
  | intro {column sign given : Token} {name value : String} (hname : column.Names name)
      (hkey : sameWord name "id" = false) (hsign : Mark "=" sign) (hvalue : given.Gives value) :
      Assigned [column, sign, given] (name, value)

/-- No semicolon is among the tokens. -/
def Plain (tokens : List Token) : Prop :=
  ∀ token ∈ tokens, ¬Mark ";" token

/-- The number of tokens that are this mark. -/
def marks (mark : String) (tokens : List Token) : Nat :=
  tokens.countP (·.is .symbol mark)

/-- Every parenthesis that is closed was opened before, `depth` of them outside, and all
are closed at the end. -/
structure Balanced (depth : Nat) (tokens : List Token) : Prop where
  opened : ∀ before, before <+: tokens → marks ")" before ≤ depth + marks "(" before
  closed : marks ")" tokens = depth + marks "(" tokens

/-- The condition of a statement, or none.  Behind `WHERE` there may be nothing. -/
inductive Clause : List Token → Option Condition → Prop
  | absent : Clause [] none
  | empty {first : Token} (hfirst : Word "WHERE" first) : Clause [first] none
  | given {first : Token} {tokens : List Token} {condition : Condition}
      (hfirst : Word "WHERE" first) (hplain : Plain tokens)
      (hbalanced : Balanced 0 tokens) (hcondition : Condition.ofTokens tokens = .ok condition) :
      Clause (first :: tokens) (some condition)

/-! ## Statements -/

open Statement (Form)

/-- The tokens that spell a statement, form by form. -/
inductive Spells : Form → List Token → Statement → Prop
  | use {t₁ t₂ last : Token} {database : String}
      (h₁ : Word "USE" t₁) (h₂ : t₂.Names database) (hlast : Mark ";" last) :
      Spells .use [t₁, t₂, last] (.use database)
  | createDatabase {t₁ t₂ t₃ last : Token} {database : String}
      (h₁ : Word "CREATE" t₁) (h₂ : Word "DATABASE" t₂) (h₃ : t₃.Names database)
      (hlast : Mark ";" last) :
      Spells .createDatabase [t₁, t₂, t₃, last] (.createDatabase database)
  | createTable {t₁ t₂ t₃ last : Token} {tokens : List Token} {table : String}
      {columns : List String}
      (h₁ : Word "CREATE" t₁) (h₂ : Word "TABLE" t₂) (h₃ : t₃.Names table)
      (hcolumns : Columns tokens columns) (hlast : Mark ";" last) :
      Spells .createTable (t₁ :: t₂ :: t₃ :: (tokens ++ [last])) (.createTable table columns)
  | insert {t₁ t₂ t₃ t₄ left right last : Token} {tokens : List Token} {table : String}
      {values : List String}
      (h₁ : Word "INSERT" t₁) (h₂ : Word "INTO" t₂) (h₃ : t₃.Names table)
      (h₄ : Word "VALUES" t₄) (hleft : Mark "(" left)
      (hvalues : Listed (Single Gives) tokens values) (hright : Mark ")" right)
      (hlast : Mark ";" last) :
      Spells .insert (t₁ :: t₂ :: t₃ :: t₄ :: left :: (tokens ++ [right, last]))
        (.insert table values)
  | select {t₁ t₂ t₃ last : Token} {tokens clause : List Token} {table : String}
      {columns : Selection} {condition : Option Condition}
      (h₁ : Word "SELECT" t₁) (hcolumns : Selected tokens columns) (h₂ : Word "FROM" t₂)
      (h₃ : t₃.Names table) (hclause : Clause clause condition) (hlast : Mark ";" last) :
      Spells .select (t₁ :: (tokens ++ t₂ :: t₃ :: (clause ++ [last])))
        (.select table columns condition)
  | update {t₁ t₂ t₃ last : Token} {tokens clause : List Token} {table : String}
      {assignments : List (String × String)} {condition : Option Condition}
      (h₁ : Word "UPDATE" t₁) (h₂ : t₂.Names table) (h₃ : Word "SET" t₃)
      (hassignments : Listed Assigned tokens assignments) (hclause : Clause clause condition)
      (hlast : Mark ";" last) :
      Spells .update (t₁ :: t₂ :: t₃ :: (tokens ++ (clause ++ [last])))
        (.update table assignments condition)
  | delete {t₁ t₂ t₃ last : Token} {clause : List Token} {table : String}
      {condition : Option Condition}
      (h₁ : Word "DELETE" t₁) (h₂ : Word "FROM" t₂) (h₃ : t₃.Names table)
      (hclause : Clause clause condition) (hlast : Mark ";" last) :
      Spells .delete (t₁ :: t₂ :: t₃ :: (clause ++ [last])) (.delete table condition)
  | add {t₁ t₂ t₃ t₄ t₅ last : Token} {table column : String}
      (h₁ : Word "ALTER" t₁) (h₂ : Word "TABLE" t₂) (h₃ : t₃.Names table)
      (h₄ : Word "ADD" t₄) (h₅ : t₅.Names column) (hlast : Mark ";" last) :
      Spells .alter [t₁, t₂, t₃, t₄, t₅, last] (.alter table .add column)
  | drop {t₁ t₂ t₃ t₄ t₅ last : Token} {table column : String}
      (h₁ : Word "ALTER" t₁) (h₂ : Word "TABLE" t₂) (h₃ : t₃.Names table)
      (h₄ : Word "DROP" t₄) (h₅ : t₅.Names column) (hlast : Mark ";" last) :
      Spells .alter [t₁, t₂, t₃, t₄, t₅, last] (.alter table .drop column)
  | dropTable {t₁ t₂ t₃ last : Token} {table : String}
      (h₁ : Word "DROP" t₁) (h₂ : Word "TABLE" t₂) (h₃ : t₃.Names table)
      (hlast : Mark ";" last) :
      Spells .drop [t₁, t₂, t₃, last] (.dropTable table)
  | dropDatabase {t₁ t₂ t₃ last : Token} {database : String}
      (h₁ : Word "DROP" t₁) (h₂ : Word "DATABASE" t₂) (h₃ : t₃.Names database)
      (hlast : Mark ";" last) :
      Spells .drop [t₁, t₂, t₃, last] (.dropDatabase database)
  | join {t₁ t₂ t₃ t₄ t₅ t₆ t₇ t₈ last : Token}
      {left right leftColumn rightColumn : String}
      (h₁ : Word "JOIN" t₁) (h₂ : t₂.Names left) (h₃ : AndWord t₃) (h₄ : t₄.Names right)
      (h₅ : Word "ON" t₅) (h₆ : t₆.Names leftColumn) (h₇ : AndWord t₇)
      (h₈ : t₈.Names rightColumn) (hlast : Mark ";" last) :
      Spells .join [t₁, t₂, t₃, t₄, t₅, t₆, t₇, t₈, last]
        (.join left right leftColumn rightColumn)

end Grammar

end TextTables
