import TextTables.Proofs.Condition.Grammar

/-!
# The tests of a condition

What a condition says of a row depends on the cells under the columns of its tests alone.
A test whose operator is none of the signs of comparison holds for no row.  Each test is
written with three tokens in a row, of which the middle one can be any.
-/

namespace TextTables

/-- The cell of a row under a column of the header. -/
def Row.under? (header row : List String) (column : String) : Option String :=
  (columnIndex? header column).bind (row[·]?)

namespace Comparison

/-- The operators that compare: six signs, and the word `LIKE` in any case. -/
def IsSign (sign : String) : Prop :=
  sign ∈ ["==", "!=", "<", ">", "<=", ">="] ∨ Text.sameWord sign "LIKE" = true

instance (sign : String) : Decidable (IsSign sign) :=
  inferInstanceAs (Decidable (_ ∨ _))

/-- Any other operator is false of any two texts, whether they are numerals or not. -/
theorem holds_eq_false_of_not_isSign {sign : String} (h : ¬IsSign sign) (value literal : String) :
    holds sign value literal = false := by
  obtain ⟨hsign, hlike⟩ := not_or.mp h
  simp only [List.mem_cons, List.not_mem_nil, or_false, not_or] at hsign
  unfold holds
  split
  · simp [numeric, hsign]
  · simp [textual, hsign, hlike]

end Comparison

namespace Condition

/-- A test of a condition. -/
structure Leaf where
  column : String
  sign : String
  literal : String
deriving Repr, DecidableEq

/-- The tests of a condition, from left to right. -/
def tests : Condition → List Leaf
  | test column sign literal => [⟨column, sign, literal⟩]
  | both left right | either left right => left.tests ++ right.tests

theorem holds_test (header row : List String) (column sign literal : String) :
    (test column sign literal).holds header row =
      (Row.under? header row column).any
        fun cell => Comparison.holds sign (Text.trim cell) literal := by
  rw [holds, Row.under?]
  cases (Row.columnIndex? header column).bind (row[·]?) with
  | none => rfl
  | some cell => rw [Option.any_some]

theorem holds_test_eq_false_of_not_isSign {column sign : String} (h : ¬Comparison.IsSign sign)
    (header row : List String) (literal : String) :
    (test column sign literal).holds header row = false := by
  rw [holds_test]
  cases Row.under? header row column with
  | none => rfl
  | some cell => rw [Option.any_some, Comparison.holds_eq_false_of_not_isSign h]

/-- Rows that agree under the columns of the tests are not told apart, nor are headers that
have these columns in other places. -/
theorem holds_congr {condition : Condition} {header row otherHeader otherRow : List String}
    (h : ∀ leaf ∈ condition.tests,
      Row.under? header row leaf.column = Row.under? otherHeader otherRow leaf.column) :
    condition.holds header row = condition.holds otherHeader otherRow := by
  induction condition with
  | test column sign literal =>
      rw [holds_test, holds_test, h ⟨column, sign, literal⟩ (List.mem_singleton_self _)]
  | both left right hleft hright =>
      obtain ⟨hfirst, hsecond⟩ := List.forall_mem_append.mp h
      rw [holds, holds, hleft hfirst, hright hsecond]
  | either left right hleft hright =>
      obtain ⟨hfirst, hsecond⟩ := List.forall_mem_append.mp h
      rw [holds, holds, hleft hfirst, hright hsecond]

/-! ## Tests as they are written -/

/-- Three tokens that a test is written with.  Any token can be the middle one. -/
structure Leaf.Stands (leaf : Leaf) (column sign literal : Token) : Prop where
  column_category : column.category = .identifier
  literal_category : isLiteralCategory literal.category = true
  column_value : column.value = leaf.column
  sign_value : sign.value = leaf.sign
  literal_value : Token.stripQuotes literal.value = leaf.literal

/-- Every test of what is written is written at some place. -/
theorem Writing.exists_stands {level : Level} (writing : Writing level) {leaf : Leaf}
    (h : leaf ∈ writing.condition.tests) :
    ∃ column sign literal, [column, sign, literal] <:+: writing.tokens ∧
      leaf.Stands column sign literal := by
  induction writing with
  | test column sign literal hcolumn hliteral =>
      rw [condition, tests, List.mem_singleton] at h
      subst h
      exact ⟨column, sign, literal, List.infix_rfl, hcolumn, hliteral, rfl, rfl, rfl⟩
  | group left inner right _ _ ih =>
      obtain ⟨column, sign, literal, hinfix, hstands⟩ := ih h
      exact ⟨column, sign, literal, hinfix.trans ⟨[left], [right], rfl⟩, hstands⟩
  | single operand ih => exact ih h
  | only conjunction ih => exact ih h
  | both left word right _ hleft hright | either left word right _ hleft hright =>
      rcases List.mem_append.mp h with hmem | hmem
      · obtain ⟨column, sign, literal, hinfix, hstands⟩ := hleft hmem
        exact ⟨column, sign, literal, hinfix.trans (List.prefix_append _ _).isInfix, hstands⟩
      · obtain ⟨column, sign, literal, hinfix, hstands⟩ := hright hmem
        refine ⟨column, sign, literal, hinfix.trans ?_, hstands⟩
        exact ((List.suffix_cons word _).trans (List.suffix_append _ _)).isInfix

end Condition

end TextTables
