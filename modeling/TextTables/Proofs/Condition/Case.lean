import TextTables.Proofs.Condition.Reading
import TextTables.Proofs.Token.Case

/-!
# Conditions up to the case of their letters

The reader of conditions takes the same steps on tokens with small letters, and a row
meets the condition that it reads from them if it meets the condition itself: columns are
found, texts compared and signs told in any case.
-/

namespace TextTables

open Text (small)

namespace Comparison

/-! ## Comparing -/

theorem numeric_small (sign : String) (left right : Int) :
    numeric (small sign) left right = numeric sign left right := by
  unfold numeric
  rw [Text.small_beq (by decide), Text.small_beq (by decide), Text.small_beq (by decide),
    Text.small_beq (by decide), Text.small_beq (by decide), Text.small_beq (by decide)]

theorem textual_small (sign value literal : String) :
    textual (small sign) value (small literal) = textual sign value literal := by
  unfold textual
  rw [Text.small_beq (by decide), Text.small_beq (by decide), Text.sameWord_small,
    Text.lower_small]

/-- A value stands to a literal as it does to the literal in any other case. -/
theorem holds_small (sign value literal : String) :
    holds (small sign) value (small literal) = holds sign value literal := by
  unfold holds
  rw [Decimal.ofText?_small]
  simp only [numeric_small, textual_small]

end Comparison

namespace Row

theorem columnIndex?_small (header : List String) (column : String) :
    columnIndex? header (small column) = columnIndex? header column := by
  simp only [columnIndex?, Text.sameWord_small_right]

end Row

namespace Condition

/-- A condition with the letters `A` to `Z` made small. -/
def small : Condition → Condition
  | test column sign literal =>
    test (Text.small column) (Text.small sign) (Text.small literal)
  | both left right => both left.small right.small
  | either left right => either left.small right.small

/-- The same rows meet a condition in any case of its letters. -/
theorem holds_small (header row : List String) (condition : Condition) :
    condition.small.holds header row = condition.holds header row := by
  induction condition with
  | test column sign literal =>
      simp only [small, holds, Row.columnIndex?_small, Comparison.holds_small]
  | both left right ihleft ihright => rw [small, holds, holds, ihleft, ihright]
  | either left right ihleft ihright => rw [small, holds, holds, ihleft, ihright]

/-! ## Reading -/

/-- What has been read of a group, with small letters. -/
def Group.small (group : Group) : Group :=
  ⟨group.alternative.map Condition.small, group.conjunction.map Condition.small⟩

/-- The place of the reader, with small letters in what has been read. -/
def Reading.small : Reading → Reading
  | operand group => operand group.small
  | junction group conjunction => junction group.small conjunction.small

theorem Group.conjoin_small (group : Group) (operand : Condition) :
    group.small.conjoin operand.small = (group.conjoin operand).small := by
  unfold conjoin
  cases h : group.conjunction with
  | none => simp only [small, h, Option.map_none]
  | some left => simp only [small, h, Option.map_some, Condition.small]

theorem Group.close_small (group : Group) (conjunction : Condition) :
    group.small.close conjunction.small = (group.close conjunction).small := by
  unfold close
  cases h : group.alternative with
  | none => simp only [small, h, Option.map_none]
  | some left => simp only [small, h, Option.map_some, Condition.small]

theorem toOption_readOn_small (reading : Reading) (around : List Group) (tokens : List Token) :
    (readOn reading.small (around.map Group.small) (tokens.map Token.small)).toOption =
      (readOn reading around tokens).toOption.map small := by
  -- What the reader asks of a token it asks of its category or in any case of its letters,
  -- so each step on tokens with small letters is the step on the tokens themselves.
  fun_induction readOn reading around tokens with
  | case1 | case2 => rfl
  | case3 group conjunction =>
      change some (group.small.close conjunction.small) = _
      rw [Group.close_small]
      rfl
  | case4 around token rest group hopen ih =>
      rw [List.map_cons, Reading.small, readOn_operand, Token.is_small, if_pos hopen]
      exact ih
  | case5 around token rest group hopen hcategory =>
      rw [List.map_cons, Reading.small, readOn_operand, Token.is_small, if_neg hopen,
        Token.category_small, if_pos hcategory]
      rfl
  | case6 around token group hopen hcategory sign literal rest hliteral operand ih =>
      have htest : test (Text.small token.value) (Text.small sign.value)
          (Text.small (Token.stripQuotes literal.value)) = operand.small := rfl
      rw [List.map_cons, List.map_cons, List.map_cons, Reading.small, readOn_operand,
        Token.is_small, if_neg hopen, Token.category_small, if_neg hcategory]
      simp only [Token.category_small, Token.value_small, hliteral, if_true,
        Token.stripQuotes_small, htest, Group.conjoin_small]
      exact ih
  | case7 around token group hopen hcategory sign literal rest hliteral =>
      rw [List.map_cons, List.map_cons, List.map_cons, Reading.small, readOn_operand,
        Token.is_small, if_neg hopen, Token.category_small, if_neg hcategory]
      simp only [Token.category_small, hliteral]
      rfl
  | case8 around token rest group hopen hcategory hshort =>
      rw [List.map_cons, Reading.small, readOn_operand, Token.is_small, if_neg hopen,
        Token.category_small, if_neg hcategory]
      match rest with
      | [] => rfl
      | [_] => rfl
      | sign :: literal :: rest => exact absurd rfl (hshort sign literal rest)
  | case9 around token rest group conjunction hand ih =>
      rw [List.map_cons, Reading.small, readOn_junction, Token.is_small, if_pos hand]
      exact ih
  | case10 around token rest group conjunction hand hor ih =>
      rw [List.map_cons, Reading.small, readOn_junction, Token.is_small, Token.is_small,
        if_neg hand, if_pos hor, Group.close_small]
      exact ih
  | case11 token rest group conjunction hand hor =>
      rw [List.map_cons, Reading.small, readOn_junction, Token.is_small, Token.is_small,
        if_neg hand, if_neg hor]
      rfl
  | case12 token rest group conjunction hand hor outer around hclose operand ih =>
      rw [List.map_cons, List.map_cons, Reading.small, readOn_junction, Token.is_small,
        Token.is_small, if_neg hand, if_neg hor]
      simp only [Token.is_small, hclose, if_true, Group.close_small,
        Group.conjoin_small]
      exact ih
  | case13 token rest group conjunction hand hor outer around hclose =>
      rw [List.map_cons, List.map_cons, Reading.small, readOn_junction, Token.is_small,
        Token.is_small, if_neg hand, if_neg hor]
      simp only [Token.is_small, hclose]
      rfl

theorem toOption_ofTokens_small (tokens : List Token) :
    (ofTokens (tokens.map Token.small)).toOption = (ofTokens tokens).toOption.map small :=
  toOption_readOn_small (.operand .start) [] tokens

end Condition

end TextTables
