import TextTables.Table

/-!
# Tables on lines

A row without tabs in its cells is what its line is split into, and a table whose
rows are such rows, and whose lines are not empty, is what its lines hold.
-/

namespace TextTables

namespace Row

/-- A text that does not end a cell. -/
def TabFree (cell : String) : Prop :=
  '\t' ∉ cell.toList

theorem ofLine_toLine {cells : List String} (hne : cells ≠ [])
    (hfree : ∀ cell ∈ cells, TabFree cell) : ofLine (toLine cells) = cells := by
  have hparts : ∀ part ∈ cells.map String.toList, '\t' ∉ part := by
    intro part hpart
    obtain ⟨cell, hcell, rfl⟩ := List.mem_map.mp hpart
    exact hfree cell hcell
  have hsplit : (toLine cells).toList.splitOn '\t' = cells.map String.toList := by
    rw [toLine, String.toList_intercalate]
    exact List.splitOn_intercalate '\t' hparts (by simpa using hne)
  rw [ofLine, hsplit, List.map_map]
  have hid : String.ofList ∘ String.toList = id := by
    funext cell
    exact String.ofList_toList
  rw [hid, List.map_id]

/-- A line holds its cells and the tabs between them. -/
theorem mem_toLine {cells : List String} {c : Char} (h : c ∈ (toLine cells).toList) :
    c = '\t' ∨ ∃ cell ∈ cells, c ∈ cell.toList := by
  induction cells with
  | nil => cases h
  | cons first rest ih =>
      cases rest with
      | nil =>
          rw [toLine, String.intercalate_singleton] at h
          exact Or.inr ⟨first, List.mem_cons_self, h⟩
      | cons second more =>
          rw [toLine, String.intercalate_cons_cons, String.toList_append,
            String.toList_append] at h
          rcases List.mem_append.mp h with h | h
          · rcases List.mem_append.mp h with h | h
            · exact Or.inr ⟨first, List.mem_cons_self, h⟩
            · exact Or.inl (List.mem_singleton.mp h)
          · rcases ih h with h | ⟨cell, hcell, hc⟩
            · exact Or.inl h
            · exact Or.inr ⟨cell, List.mem_cons_of_mem _ hcell, hc⟩

/-- A line without a tab is that of its only cell, or empty. -/
theorem toLine_eq_iff {cells : List String} {cell : String} (hne : cell ≠ "")
    (hfree : TabFree cell) : toLine cells = cell ↔ cells = [cell] := by
  rw [toLine]
  match cells with
  | [] =>
      constructor
      · exact fun h => absurd h.symm hne
      · exact fun h => by cases h
  | [only] => simp
  | first :: second :: rest =>
      constructor
      · rintro rfl
        refine absurd ?_ hfree
        simp
      · exact fun h => by cases h

/-- Cells make the empty line only if there are none, or one that is empty. -/
theorem toLine_eq_empty_iff {cells : List String} :
    toLine cells = "" ↔ cells = [] ∨ cells = [""] := by
  rw [toLine]
  match cells with
  | [] => exact iff_of_true rfl (Or.inl rfl)
  | [cell] => simp
  | first :: second :: rest =>
      refine iff_of_false (fun h => ?_) (by simp)
      have hlist := congrArg String.toList h
      simp [String.intercalate_cons_cons] at hlist

end Row

namespace Table

/-- What makes a table survive being written on lines and read again. -/
structure Encodable (t : Table) : Prop where
  header_ne_nil : t.header ≠ []
  header_tabFree : ∀ heading ∈ t.header, Row.TabFree heading
  row_ne_nil : ∀ row ∈ t.rows, row ≠ []
  row_ne_blank : ∀ row ∈ t.rows, row ≠ [""]
  row_tabFree : ∀ row ∈ t.rows, ∀ cell ∈ row, Row.TabFree cell

theorem Encodable.ofLine_toLine_rows {t : Table} (h : t.Encodable) :
    (t.rows.map Row.toLine).map Row.ofLine = t.rows := by
  rw [List.map_map]
  calc
    t.rows.map (Row.ofLine ∘ Row.toLine) = t.rows.map id := by
      apply List.map_congr_left
      intro row hrow
      exact Row.ofLine_toLine (h.row_ne_nil row hrow) (h.row_tabFree row hrow)
    _ = t.rows := List.map_id t.rows

/-- Without tabs in the cells, all that is not read again are rows that make empty lines. -/
theorem ofLines?_toLines_filter {t : Table} (hne : t.header ≠ [])
    (hheader : ∀ heading ∈ t.header, Row.TabFree heading)
    (hrows : ∀ row ∈ t.rows, ∀ cell ∈ row, Row.TabFree cell) :
    ofLines? t.toLines =
      some { t with rows := t.rows.filter fun row => row ≠ [] ∧ row ≠ [""] } := by
  have hkept : (t.rows.map Row.toLine).filter (· != "") =
      (t.rows.filter fun row => row ≠ [] ∧ row ≠ [""]).map Row.toLine := by
    rw [List.filter_map]
    refine congrArg (List.map Row.toLine) (List.filter_congr fun row _ => ?_)
    rw [Bool.eq_iff_iff, Function.comp_apply, bne_iff_ne, decide_eq_true_iff, Ne,
      Row.toLine_eq_empty_iff, not_or]
  have hread : ((t.rows.filter fun row => row ≠ [] ∧ row ≠ [""]).map Row.toLine).map
      Row.ofLine = t.rows.filter fun row => row ≠ [] ∧ row ≠ [""] := by
    rw [List.map_map]
    refine (List.map_congr_left fun row hrow => ?_).trans (List.map_id _)
    obtain ⟨hmem, hfull⟩ := List.mem_filter.mp hrow
    exact Row.ofLine_toLine (decide_eq_true_iff.mp hfull).1 (hrows row hmem)
  rw [toLines, List.map_cons, ofLines?, Row.ofLine_toLine hne hheader, hkept, hread]

theorem ofLines?_toLines {t : Table} (h : t.Encodable) :
    ofLines? t.toLines = some t := by
  rw [ofLines?_toLines_filter h.header_ne_nil h.header_tabFree h.row_tabFree,
    List.filter_eq_self.mpr]
  exact fun row hrow => decide_eq_true ⟨h.row_ne_nil row hrow, h.row_ne_blank row hrow⟩

end Table

end TextTables
