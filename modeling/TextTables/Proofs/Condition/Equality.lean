import TextTables.Proofs.Condition.Reading
import TextTables.Proofs.Table.Assignment
import TextTables.Proofs.Text.Case
import TextTables.Proofs.Text.Trim
import TextTables.Proofs.Token.Adjacent

/-!
# Equality in conditions and in joins

A condition trims the cell that it looks at, but takes the literal as it stands between its
quotes, while a join trims both texts.  So the two notions of equality are the same for
every literal that is trimmed.  A literal with a blank at one of its ends is equal to no
cell at all: it is no numeral, and no trimmed text has its lower case.
-/

namespace TextTables

open Text (lower trim)

namespace Comparison

/-! ## Comparing -/

theorem equal_comm (left right : String) : equal left right = equal right left := by
  unfold equal holds
  cases Decimal.ofText? (trim left) with
  | none =>
      cases Decimal.ofText? (trim right) with
      | none => exact BEq.comm
      | some number => exact BEq.comm
  | some number =>
      cases Decimal.ofText? (trim right) with
      | none => exact BEq.comm
      | some other => exact BEq.comm

theorem equal_self (text : String) : equal text text = true := by
  unfold equal holds
  cases Decimal.ofText? (trim text) with
  | none => exact beq_self_eq_true _
  | some number => exact beq_self_eq_true _

/-- A text with a blank is no numeral. -/
theorem ofText?_eq_none_of_isBlank {text : String} {c : Char} (hc : c ∈ text.toList)
    (hblank : Text.isBlank c = true) : Decimal.ofText? text = none := by
  have hdigit : c.isDigit = false := by
    rw [Bool.eq_false_iff]
    intro hdigit
    rw [Text.not_isBlank_of_isDigit hdigit] at hblank
    cases hblank
  have hne : ∀ d : Char, Text.isBlank d = false → c ≠ d := by
    rintro d hd rfl
    rw [hd] at hblank
    cases hblank
  exact Decimal.ofChars?_eq_none hc hdigit ⟨hne '+' (by decide), hne '-' (by decide)⟩
    (hne '.' (by decide))

/-- What a trimmed text is equal to is trimmed, and then this is the equality of joins. -/
theorem holds_trim (value literal : String) :
    holds "==" (trim value) literal = (trim literal == literal && equal value literal) := by
  by_cases htrim : trim literal = literal
  · simp [equal, htrim]
  · have hblank : ∃ c ∈ literal.toList, Text.isBlank c = true := by
      by_contra hnone
      push Not at hnone
      apply htrim
      rw [Text.trim_eq_self_iff, ← Text.trimChars_eq_self_iff]
      exact Text.trimChars_of_forall_not_isBlank fun c hc => by simpa using hnone c hc
    obtain ⟨c, hc, hblank⟩ := hblank
    have hnumeral := ofText?_eq_none_of_isBlank hc hblank
    have hdifferent : lower (trim value) ≠ lower literal :=
      fun hsame => htrim (Text.trim_eq_self_of_lower_eq hsame)
    have htextual : holds "==" (trim value) literal =
        textual "==" (trim value) literal := by
      unfold holds
      rw [hnumeral]
      cases Decimal.ofText? (trim value) with
      | none => rfl
      | some number => rfl
    rw [htextual, beq_false_of_ne htrim, Bool.false_and]
    exact beq_false_of_ne hdifferent

end Comparison

namespace Condition

/-! ## Reading a test of equality -/

theorem ofText_equality {column literal : String}
    (hcolumn : Token.classify column = .ok .identifier)
    (hliteral : Fragment.IsContent literal.toList) :
    Token.ofText (column ++ " == '" ++ literal ++ "'") =
      .ok [⟨.identifier, column⟩, ⟨.operator, "=="⟩, Token.ofContent literal.toList] := by
  have htext : column ++ " == '" ++ literal ++ "'" =
      column ++ " " ++ ("==" ++ " " ++ Fragment.quoted literal.toList) := by
    simp [← String.toList_inj, Fragment.toList_quoted, Fragment.quote]
  have hsign : Token.ofText "==" = .ok [⟨.operator, "=="⟩] := by decide +kernel
  rw [htext, Token.ofText_append_space (Token.ofText_of_classify hcolumn),
    Token.ofText_append_space hsign, Token.ofText_quoted hliteral]
  rfl

theorem ofTokens_equality (column literal : String) :
    ofTokens [⟨.identifier, column⟩, ⟨.operator, "=="⟩, Token.ofContent literal.toList] =
      .ok (.test column "==" literal) := by
  have hleaf : ofTokens
      [⟨.identifier, column⟩, ⟨.operator, "=="⟩, Token.ofContent literal.toList] =
      .ok (.test column "==" (Token.stripQuotes (Fragment.quoted literal.toList))) := rfl
  rw [hleaf, Token.stripQuotes_quoted, String.ofList_toList]

/-! ## The same rows -/

section

variable {column literal : String}

theorem holds_equality {header row : List String} {value : String}
    (hvalue : (Row.columnIndex? header column).bind (row[·]?) = some value) :
    (test column "==" literal).holds header row =
      (trim literal == literal && Comparison.equal value literal) := by
  rw [holds, hvalue]
  exact Comparison.holds_trim value literal

/-- A cell that holds the literal itself is found unless the literal has a blank at an
end. -/
theorem holds_equality_self {header row : List String}
    (hvalue : (Row.columnIndex? header column).bind (row[·]?) = some literal) :
    (test column "==" literal).holds header row = true ↔ trim literal = literal := by
  rw [holds_equality hvalue, Comparison.equal_self, Bool.and_true, beq_iff_eq]

theorem holds_equality_inserted {t changed : Table} {values : List String} {place : Nat}
    (ht : t.insert values = .ok changed) (hplace : t.columnIndex? column = some (place + 1))
    (hvalue : values[place]?.map Token.stripQuotes = some literal) :
    ∃ row, changed.rows = t.rows ++ [row] ∧
      ((test column "==" literal).holds t.header row = true ↔ trim literal = literal) := by
  unfold Table.insert at ht
  simp only at ht
  split at ht
  · cases ht
  · split at ht
    · cases ht
    · next id _ =>
        cases ht
        refine ⟨_, rfl, holds_equality_self ?_⟩
        rw [Table.columnIndex?] at hplace
        rw [hplace, Option.bind_some, List.getElem?_cons_succ, List.getElem?_map, hvalue]

theorem holds_equality_assigned {t changed : Table} {assignments : List (String × String)}
    {condition : Option Condition} (ht : t.update assignments condition = .ok changed)
    {place : Nat} (hplace : t.columnIndex? column = some place)
    (hgiven : Table.lastGiven? assignments column = some literal) {index : Nat}
    {row : List String} (hrow : t.rows[index]? = some row)
    (hmatches : t.matchesRow condition row = true) :
    ∃ after, changed.rows[index]? = some after ∧
      ((test column "==" literal).holds t.header after = true ↔ trim literal = literal) := by
  obtain ⟨targets, htargets, ht⟩ := exists_of_bind_eq_ok ht
  cases ht
  refine ⟨Row.assign targets (Row.pad t.width row), ?_, holds_equality_self ?_⟩
  · rw [List.getElem?_map, hrow, Option.map_some, if_pos hmatches]
  · have hlt : place < (Row.pad t.width row).length := by
      have hwidth := Table.lt_width_of_columnIndex? hplace
      rw [Row.pad, List.length_append, List.length_replicate]
      omega
    rw [Table.columnIndex?] at hplace
    rw [hplace, Option.bind_some, Table.getElem?_assign_targets htargets hplace, hgiven,
      List.getElem?_eq_getElem hlt]
    rfl

/-- A row is joined to another one if its key is equal to that of the other. -/
theorem isSome_joinRows {left row : List String} {leftKey rightKey : Nat}
    (hleft : left[leftKey]? = some literal) (leftPlaces rightPlaces : List Nat) :
    (Table.joinRows leftKey rightKey leftPlaces rightPlaces left row).isSome =
      row[rightKey]?.any (Comparison.equal literal) := by
  unfold Table.joinRows
  rw [hleft]
  cases row[rightKey]? with
  | none => rfl
  | some value =>
      by_cases hequal : Comparison.equal literal value = true
      · simp [hequal]
      · simp [hequal]

/-- The rows that are joined to a row are those that the literal of its key finds. -/
theorem filter_holds_equality {right : Table} {left : List String} {leftKey rightKey : Nat}
    (hleft : left[leftKey]? = some literal) (hright : right.columnIndex? column = some rightKey)
    (leftPlaces rightPlaces : List Nat) :
    right.rows.filter ((test column "==" literal).holds right.header) =
      if trim literal = literal then
        right.rows.filter fun row =>
          (Table.joinRows leftKey rightKey leftPlaces rightPlaces left row).isSome
      else [] := by
  have hrow : ∀ row : List String, (test column "==" literal).holds right.header row =
      (trim literal == literal &&
        (Table.joinRows leftKey rightKey leftPlaces rightPlaces left row).isSome) := by
    intro row
    rw [isSome_joinRows hleft]
    rw [Table.columnIndex?] at hright
    cases hvalue : row[rightKey]? with
    | none => simp [holds, hright, hvalue]
    | some value =>
        have hcell : (Row.columnIndex? right.header column).bind (row[·]?) = some value := by
          rw [hright, Option.bind_some, hvalue]
        rw [holds_equality hcell, Comparison.equal_comm, Option.any_some]
  by_cases htrim : trim literal = literal
  · simp [hrow, htrim]
  · simp [hrow, htrim]

end

/-- **Equality in a condition is the equality of joins on trimmed literals, and there only.**
The text `c == 'w'` is read as a test that finds a cell exactly if the literal is trimmed and
the cell is equal to it by the rule of joins.  So a literal that is put into a table, by an
insertion or as the last value that an update gives the column, is found again exactly if it
is trimmed; and a literal that is the key of a row finds the rows that are joined to it
if it is trimmed, and no rows at all otherwise. -/
theorem equality_leaf (column literal : String)
    (hcolumn : Token.classify column = .ok .identifier)
    (hliteral : Fragment.IsContent literal.toList) :
    ∃ leaf : Condition,
      (Token.ofText (column ++ " == '" ++ literal ++ "'") >>= ofTokens) = .ok leaf ∧
      (∀ header row value, (Row.columnIndex? header column).bind (row[·]?) = some value →
        leaf.holds header row = (trim literal == literal && Comparison.equal value literal)) ∧
      (∀ (t changed : Table) (values : List String) place, t.insert values = .ok changed →
        t.columnIndex? column = some (place + 1) →
        values[place]? = some ("'" ++ literal ++ "'") →
          ∃ row, changed.rows = t.rows ++ [row] ∧
            (leaf.holds t.header row = true ↔ trim literal = literal)) ∧
      (∀ (t changed : Table) assignments condition place (index : Nat) row,
        t.update assignments condition = .ok changed → t.columnIndex? column = some place →
        Table.lastGiven? assignments column = some literal → t.rows[index]? = some row →
        t.matchesRow condition row = true →
          ∃ after, changed.rows[index]? = some after ∧
            (leaf.holds t.header after = true ↔ trim literal = literal)) ∧
      ∀ (right : Table) (left : List String) (leftKey rightKey : Nat) leftPlaces rightPlaces,
        left[leftKey]? = some literal → right.columnIndex? column = some rightKey →
          right.rows.filter (leaf.holds right.header) =
            if trim literal = literal then
              right.rows.filter fun row =>
                (Table.joinRows leftKey rightKey leftPlaces rightPlaces left row).isSome
            else [] := by
  refine ⟨.test column "==" literal, ?_, ?_, ?_, ?_, ?_⟩
  · rw [ofText_equality hcolumn hliteral, ok_bind, ofTokens_equality]
  · exact fun header row value hvalue => holds_equality hvalue
  · intro t changed values place ht hplace hvalue
    have hquoted : "'" ++ literal ++ "'" = Fragment.quoted literal.toList := by
      simp [← String.toList_inj, Fragment.toList_quoted, Fragment.quote]
    refine holds_equality_inserted ht hplace ?_
    rw [hvalue, Option.map_some, hquoted, Token.stripQuotes_quoted, String.ofList_toList]
  · intro t changed assignments condition place index row ht hplace hgiven hrow hmatches
    exact holds_equality_assigned ht hplace hgiven hrow hmatches
  · intro right left leftKey rightKey leftPlaces rightPlaces hleft hright
    exact filter_holds_equality hleft hright leftPlaces rightPlaces

/-- The literal `x` finds what it is put in as, in any case and with blanks around it, and
the rows that a row with this key is joined to. -/
theorem equality_leaf_of_letter :
    Token.classify "c" = .ok .identifier ∧ Fragment.IsContent "x".toList ∧
      ∃ leaf : Condition, (Token.ofText "c == 'x'" >>= ofTokens) = .ok leaf ∧
        leaf.holds ["id", "c"] ["1", " X "] = true ∧
        (∃ row, [["1", "x"]] = [] ++ [row] ∧ leaf.holds ["id", "c"] row = true) ∧
        (∃ after, [["1", "x"]][0]? = some after ∧ leaf.holds ["id", "c"] after = true) ∧
        [["1", "X"], ["2", "y"]].filter (leaf.holds ["id", "c"]) = [["1", "X"]] := by
  have hcolumn : Token.classify "c" = .ok .identifier := by decide +kernel
  have hliteral : Fragment.IsContent "x".toList := ⟨by decide, by decide⟩
  have htrim : trim "x" = "x" := by decide +kernel
  obtain ⟨leaf, hread, hcell, hinsert, hupdate, hjoin⟩ := equality_leaf "c" "x" hcolumn hliteral
  have hfound := hcell ["id", "c"] ["1", " X "] " X " (by decide +kernel)
  obtain ⟨row, hrow, hinserted⟩ := hinsert ⟨["id", "c"], []⟩ ⟨["id", "c"], [["1", "x"]]⟩ ["'x'"] 0
    (by decide +kernel) (by decide +kernel) (by decide +kernel)
  obtain ⟨after, hafter, hassigned⟩ := hupdate ⟨["id", "c"], [["1", "y"]]⟩
    ⟨["id", "c"], [["1", "x"]]⟩ [("c", "'x'")] none 1 0 ["1", "y"] (by decide +kernel)
    (by decide +kernel) (by decide +kernel) (by decide +kernel) (by decide +kernel)
  have hjoined := hjoin ⟨["id", "c"], [["1", "X"], ["2", "y"]]⟩ ["7", "x"] 1 1 [] [0]
    (by decide +kernel) (by decide +kernel)
  refine ⟨hcolumn, hliteral, leaf, hread, ?_, ⟨row, hrow, hinserted.mpr htrim⟩,
    ⟨after, hafter, hassigned.mpr htrim⟩, ?_⟩
  · rw [hfound]
    decide +kernel
  · rw [hjoined, if_pos htrim]
    decide +kernel

/-- A literal that begins with a blank does not find the cell that holds this very text,
while a join pairs the two. -/
theorem equality_leaf_ne_equal_of_blank :
    (Token.ofText "c == ' x'" >>= ofTokens) = .ok (.test "c" "==" " x") ∧
      (test "c" "==" " x").holds ["id", "c"] ["1", " x"] = false ∧
      Comparison.equal " x" " x" = true := by
  decide +kernel

end Condition

end TextTables
