import TextTables.Proofs.Condition.Grammar
import TextTables.Proofs.Statement.Composed

/-!
# Writing conditions as text

A condition is written out with the parentheses that its grouping needs, and with as many
more around any part of it as one likes.  What is written is read as the same condition.
-/

namespace TextTables.Condition

/-- What can be chosen where a condition is written out.  A part of the condition is found
by the turns on the way down to it, `true` for the left one. -/
structure Layout where
  /-- How many pairs of parentheses stand around a part, besides those that it needs. -/
  pairs : List Bool → Nat
  /-- Whether the literal of a test stands between quotes. -/
  quoted : List Bool → Bool

namespace Layout

/-- The choices for one of the two parts. -/
def toward (layout : Layout) (left : Bool) : Layout :=
  ⟨fun turns => layout.pairs (left :: turns), fun turns => layout.quoted (left :: turns)⟩

/-- The literal of a test as it is written. -/
def literal (layout : Layout) (content : String) : String :=
  if layout.quoted [] then "'" ++ content ++ "'" else content

end Layout

/-- A text in parentheses, so many pairs of them. -/
def enclosed : Nat → String → String
  | 0, text => text
  | pairs + 1, text => "(" ++ " " ++ enclosed pairs text ++ " " ++ ")"

/-- A condition as text, at a place where something of this level is expected.  What is
joined by `OR` needs parentheses among operands of `AND`, and on the right of an `OR`; what
is joined by `AND` needs them on the right of an `AND`. -/
def toText (level : Level) (layout : Layout) : Condition → String
  | test column sign literal =>
    enclosed (layout.pairs []) (column ++ " " ++ sign ++ " " ++ layout.literal literal)
  | both left right =>
    let needed := if level = .operand then 1 else 0
    enclosed (layout.pairs [] + needed)
      (left.toText .conjunction (layout.toward true) ++ " " ++ "AND" ++ " " ++
        right.toText .operand (layout.toward false))
  | either left right =>
    let needed := if level = .disjunction then 0 else 1
    enclosed (layout.pairs [] + needed)
      (left.toText .disjunction (layout.toward true) ++ " " ++ "OR" ++ " " ++
        right.toText .conjunction (layout.toward false))

/-- The column and the sign of a test are tokens, and so is the literal as it is written. -/
structure IsLexable (layout : Layout) (column sign literal : String) : Prop where
  column : Token.ofText column = .ok [⟨.identifier, column⟩]
  sign : ∃ category, Token.ofText sign = .ok [⟨category, sign⟩]
  literal : ∃ token, Token.ofText (layout.literal literal) = .ok [token] ∧
    isLiteralCategory token.category = true ∧ Token.stripQuotes token.value = literal

/-- Between quotes every literal without quotes and tabs can be written. -/
theorem isLexable_of_isContent {layout : Layout} {column sign literal : String}
    {category : Category} (hquoted : layout.quoted [] = true)
    (hcolumn : Token.classify column = .ok .identifier)
    (hsign : Token.ofText sign = .ok [⟨category, sign⟩])
    (hliteral : Fragment.IsContent literal.toList) :
    IsLexable layout column sign literal where
  column := Token.ofText_of_classify hcolumn
  sign := ⟨category, hsign⟩
  literal := by
    refine ⟨Token.ofContent literal.toList, ?_, rfl, ?_⟩
    · rw [Layout.literal, if_pos hquoted, ← Fragment.quoted_toList, Token.ofText_quoted hliteral]
    · rw [Token.ofContent, Token.stripQuotes_quoted, String.ofList_toList]

/-- All tests of a condition can be written. -/
def AllLexable (layout : Layout) : Condition → Prop
  | test column sign literal => IsLexable layout column sign literal
  | both left right | either left right =>
    left.AllLexable (layout.toward true) ∧ right.AllLexable (layout.toward false)

/-- The tokens of a text are those that the condition is written with. -/
def Renders (level : Level) (text : String) (condition : Condition) : Prop :=
  ∃ tokens, Token.ofText text = .ok tokens ∧ Spelled level tokens condition

section

variable {level : Level} {text more : String} {condition left right : Condition}

theorem Renders.map {other : Level} (h : Renders level text condition)
    (hspelled : ∀ {tokens}, Spelled level tokens condition → Spelled other tokens condition) :
    Renders other text condition := by
  obtain ⟨tokens, htokens, hwritten⟩ := h
  exact ⟨tokens, htokens, hspelled hwritten⟩

/-- An operand can stand at any place. -/
theorem Renders.of_operand (h : Renders .operand text condition) :
    Renders level text condition := by
  cases level with
  | operand => exact h
  | conjunction => exact h.map Spelled.single
  | disjunction => exact h.map fun hspelled => hspelled.single.only

/-- Whatever can stand somewhere can stand alone. -/
theorem Renders.disjunction (h : Renders level text condition) :
    Renders .disjunction text condition := by
  cases level with
  | operand => exact h.of_operand
  | conjunction => exact h.map Spelled.only
  | disjunction => exact h

theorem Renders.group (h : Renders .disjunction text condition) :
    Renders .operand ("(" ++ " " ++ text ++ " " ++ ")") condition := by
  obtain ⟨tokens, htokens, hspelled⟩ := h
  have hopening : Token.ofText "(" = .ok [⟨.symbol, "("⟩] := by decide +kernel
  have hclosing : Token.ofText ")" = .ok [⟨.symbol, ")"⟩] := by decide +kernel
  refine ⟨_, Token.ofText_spaced (Token.ofText_spaced hopening htokens) hclosing, ?_⟩
  exact hspelled.group rfl rfl

/-- More parentheses make no difference. -/
theorem Renders.enclosed (h : Renders level text condition) (pairs : Nat) :
    Renders level (enclosed pairs text) condition := by
  induction pairs with
  | zero => exact h
  | succ pairs ih => exact ih.disjunction.group.of_operand

/-- In parentheses a condition can stand at any place. -/
theorem Renders.enclosed_succ (h : Renders .disjunction text condition) (pairs : Nat) :
    Renders level (Condition.enclosed (pairs + 1) text) condition :=
  (h.enclosed pairs).group.of_operand

theorem IsLexable.renders {layout : Layout} {column sign literal : String}
    (h : IsLexable layout column sign literal) :
    Renders .operand (column ++ " " ++ sign ++ " " ++ layout.literal literal)
      (test column sign literal) := by
  obtain ⟨category, hsign⟩ := h.sign
  obtain ⟨token, htoken, hcategory, hvalue⟩ := h.literal
  refine ⟨_, Token.ofText_spaced (Token.ofText_spaced h.column hsign) htoken, ?_⟩
  have hspelled : Spelled .operand [⟨.identifier, column⟩, ⟨category, sign⟩, token]
      (test column sign (Token.stripQuotes token.value)) := spelled_test rfl hcategory
  rwa [hvalue] at hspelled

theorem Renders.both (hleft : Renders .conjunction text left)
    (hright : Renders .operand more right) :
    Renders .conjunction (text ++ " " ++ "AND" ++ " " ++ more) (both left right) := by
  obtain ⟨first, hfirst, hleft⟩ := hleft
  obtain ⟨second, hsecond, hright⟩ := hright
  have hword : Token.ofText "AND" = .ok [⟨.logicalOperator, "AND"⟩] := by decide +kernel
  refine ⟨_, Token.ofText_spaced (Token.ofText_spaced hfirst hword) hsecond, ?_⟩
  rw [List.append_assoc]
  exact hleft.both rfl hright

theorem Renders.either (hleft : Renders .disjunction text left)
    (hright : Renders .conjunction more right) :
    Renders .disjunction (text ++ " " ++ "OR" ++ " " ++ more) (either left right) := by
  obtain ⟨first, hfirst, hleft⟩ := hleft
  obtain ⟨second, hsecond, hright⟩ := hright
  have hword : Token.ofText "OR" = .ok [⟨.logicalOperator, "OR"⟩] := by decide +kernel
  refine ⟨_, Token.ofText_spaced (Token.ofText_spaced hfirst hword) hsecond, ?_⟩
  rw [List.append_assoc]
  exact hleft.either rfl hright

end

/-- A condition is written out in tokens of its own grouping, whatever the layout is. -/
theorem AllLexable.renders {layout : Layout} {condition : Condition}
    (h : condition.AllLexable layout) (level : Level) :
    Renders level (condition.toText level layout) condition := by
  induction condition generalizing layout level with
  | test column sign literal => exact (IsLexable.renders h).of_operand.enclosed _
  | both left right hleft hright =>
      have hboth := (hleft h.1 .conjunction).both (hright h.2 .operand)
      cases level with
      | operand => exact hboth.disjunction.enclosed_succ _
      | conjunction => exact hboth.enclosed _
      | disjunction => exact hboth.disjunction.enclosed _
  | either left right hleft hright =>
      have heither := (hleft h.1 .disjunction).either (hright h.2 .conjunction)
      cases level with
      | operand => exact heither.enclosed_succ _
      | conjunction => exact heither.enclosed_succ _
      | disjunction => exact heither.enclosed _

/-- **Conditions are read as the grammar groups them.**  From any tokens a condition is read
exactly if it is written with them from the first to the last: it is the condition of a
derivation, and the tokens of that derivation, each in its one place, are those that were
given.  So a condition whose tests can be written is read back from its text, also with more
parentheses around its parts than are needed: the text has the tokens of a derivation of it,
and from these tokens nothing else is read. -/
theorem ofTokens_reads_writings :
    (∀ tokens condition, ofTokens tokens = .ok condition ↔
      ∃ writing : Writing .disjunction,
        writing.tokens = tokens ∧ writing.condition = condition) ∧
    ∀ layout condition, AllLexable layout condition →
      ∃ writing : Writing .disjunction, writing.condition = condition ∧
        Token.ofText (condition.toText .disjunction layout) = .ok writing.tokens ∧
        ofTokens writing.tokens = .ok condition := by
  refine ⟨fun tokens condition => ofTokens_eq_ok_iff, fun layout condition h => ?_⟩
  obtain ⟨tokens, htokens, writing, rfl, rfl⟩ := h.renders .disjunction
  exact ⟨writing, rfl, htokens, writing.ofTokens_tokens⟩

/-- An alternative in the parentheses that it needs, beside a test in parentheses that it
does not need. -/
theorem ofTokens_reads_writings_enclosed :
    let layout : Layout := ⟨fun turns => if turns = [false] then 1 else 0, fun _ => true⟩
    let condition := both (either (test "a" "==" "1") (test "b" "LIKE" "x y")) (test "c" "<" "2")
    AllLexable layout condition ∧
      condition.toText .disjunction layout = "( a == '1' OR b LIKE 'x y' ) AND ( c < '2' )" ∧
      (Token.ofText "( a == '1' OR b LIKE 'x y' ) AND ( c < '2' )" >>= ofTokens) =
        .ok condition := by
  intro layout condition
  have hequal : Token.ofText "==" = .ok [⟨.operator, "=="⟩] := by decide +kernel
  have hlike : Token.ofText "LIKE" = .ok [⟨.identifier, "LIKE"⟩] := by decide +kernel
  have hless : Token.ofText "<" = .ok [⟨.operator, "<"⟩] := by decide +kernel
  have hlexable : AllLexable layout condition := by
    refine ⟨⟨?_, ?_⟩, ?_⟩
    · exact isLexable_of_isContent rfl (by decide +kernel) hequal ⟨by decide, by decide⟩
    · exact isLexable_of_isContent rfl (by decide +kernel) hlike ⟨by decide, by decide⟩
    · exact isLexable_of_isContent rfl (by decide +kernel) hless ⟨by decide, by decide⟩
  have htext : condition.toText .disjunction layout =
      "( a == '1' OR b LIKE 'x y' ) AND ( c < '2' )" := by decide +kernel
  obtain ⟨writing, _, htokens, hread⟩ := ofTokens_reads_writings.2 layout condition hlexable
  refine ⟨hlexable, htext, ?_⟩
  rw [← htext, htokens]
  exact hread

end TextTables.Condition
