import TextTables.Proofs.Table.WellFormed
import TextTables.Proofs.Text.Lines

/-!
# Damage done to a table shows

If the lines of a well-formed table are not all lines of a file, then what is read from
the file is another table, and even a query that asks for everything is answered
differently.
-/

namespace TextTables

open Text (withoutReturn)

namespace Row

theorem toLine_ofLine (line : String) : toLine (ofLine line) = line := by
  apply String.toList_inj.mp
  rw [toLine, String.toList_intercalate, ofLine, List.map_map]
  have hid : String.toList ∘ String.ofList = id := by
    funext cs
    exact String.toList_ofList
  rw [hid, List.map_id]
  exact List.intercalate_splitOn '\t'

theorem length_ofLine (line : String) : (ofLine line).length = line.toList.count '\t' + 1 := by
  rw [ofLine, List.length_map, Text.length_splitOn]

theorem subset_of_mem_ofLine {line cell : String} (h : cell ∈ ofLine line) :
    cell.toList ⊆ line.toList := by
  obtain ⟨cs, hcs, rfl⟩ := List.mem_map.mp h
  rw [String.toList_ofList]
  exact Text.subset_of_mem_splitOn hcs

theorem tabFree_of_mem_ofLine {line cell : String} (h : cell ∈ ofLine line) : TabFree cell := by
  obtain ⟨cs, hcs, rfl⟩ := List.mem_map.mp h
  rw [TabFree, String.toList_ofList]
  exact Text.not_mem_of_mem_splitOn hcs

/-- A carriage return that is lost at the end of a line is not a cell. -/
theorem length_ofLine_withoutReturn (line : String) :
    (ofLine (withoutReturn line)).length = (ofLine line).length := by
  have hcount : (Text.dropReturn line.toList).count '\t' = line.toList.count '\t' := by
    unfold Text.dropReturn
    split
    · next hlast =>
        obtain ⟨before, hbefore⟩ := List.getLast?_eq_some_iff.mp (beq_iff_eq.mp hlast)
        rw [hbefore, List.dropLast_concat, List.count_append]
        rfl
    · rfl
  rw [length_ofLine, length_ofLine, withoutReturn, String.toList_ofList, hcount]

end Row

namespace Table

/-- What a query for everything shows of any table. -/
theorem eq_of_select_all {t shown : Table} (h : t.select .all none = .ok shown) :
    shown.header = t.header ∧
      shown.rows = t.rows.map (Row.project (List.range t.width)) := by
  rw [select_all_eq, filter_matchesRow_none] at h
  cases h
  exact ⟨rfl, rfl⟩

/-- A table that is read from lines has no tabs in its cells. -/
theorem tabFree_of_ofLines? {lines : List String} {t : Table} (h : ofLines? lines = some t) :
    (∀ heading ∈ t.header, Row.TabFree heading) ∧
      ∀ row ∈ t.rows, ∀ cell ∈ row, Row.TabFree cell := by
  cases lines with
  | nil => cases h
  | cons header rest =>
      cases h
      refine ⟨fun _ => Row.tabFree_of_mem_ofLine, fun row hrow cell hcell => ?_⟩
      obtain ⟨line, _, rfl⟩ := List.mem_map.mp hrow
      exact Row.tabFree_of_mem_ofLine hcell

/-- The cells of a table that is read from lines hold no line feed if the lines hold
none. -/
theorem not_mem_of_ofLines? {lines : List String} {t : Table} (h : ofLines? lines = some t)
    (hlines : ∀ line ∈ lines, '\n' ∉ line.toList) :
    (∀ cell ∈ t.header, '\n' ∉ cell.toList) ∧
      ∀ row ∈ t.rows, ∀ cell ∈ row, '\n' ∉ cell.toList := by
  cases lines with
  | nil => cases h
  | cons header rest =>
      cases h
      constructor
      · intro cell hcell hmem
        exact hlines header List.mem_cons_self (Row.subset_of_mem_ofLine hcell hmem)
      · intro row hrow cell hcell hmem
        obtain ⟨line, hline, rfl⟩ := List.mem_map.mp hrow
        refine hlines line ?_ (Row.subset_of_mem_ofLine hcell hmem)
        exact List.mem_cons_of_mem _ (List.mem_filter.mp hline).1

theorem not_mem_project {places : List Nat} {cells : List String}
    (h : ∀ cell ∈ cells, '\n' ∉ cell.toList) :
    ∀ cell ∈ Row.project places cells, '\n' ∉ cell.toList := by
  intro cell hcell
  obtain ⟨place, _, rfl⟩ := List.mem_map.mp hcell
  rw [Row.cellAt]
  cases hfound : cells[place]? with
  | none =>
      rw [Option.getD_none, Row.null]
      decide
  | some found => exact h found (List.mem_of_getElem? hfound)

/-- Nothing that is shown of a file holds a line feed, so no line was cut. -/
theorem not_mem_toLines_of_shown {t found : Table} {lines : List String}
    (hread : ofLines? lines = some found) (hlines : ∀ line ∈ lines, '\n' ∉ line.toList)
    (hshown : found.select .all none = .ok t) : ∀ line ∈ t.toLines, '\n' ∉ line.toList := by
  obtain ⟨hheader, hrows⟩ := eq_of_select_all hshown
  obtain ⟨hheaderFree, hrowsFree⟩ := not_mem_of_ofLines? hread hlines
  intro line hline hmem
  obtain ⟨cells, hcells, rfl⟩ := List.mem_map.mp hline
  have hfree : ∀ cell ∈ cells, '\n' ∉ cell.toList := by
    rcases List.mem_cons.mp hcells with rfl | hcells
    · rw [hheader]
      exact hheaderFree
    · rw [hrows] at hcells
      obtain ⟨row, hrow, rfl⟩ := List.mem_map.mp hcells
      exact not_mem_project (hrowsFree row hrow)
  rcases Row.mem_toLine hmem with htab | ⟨cell, hcell, hc⟩
  · cases htab
  · exact hfree cell hcell hc

/-- No line of a table that is shown as it was written lost a carriage return. -/
theorem WellFormed.withoutReturn_toLine_of_shown {t found : Table} (h : t.WellFormed)
    (hread : ofLines? (t.toLines.map withoutReturn) = some found)
    (hshown : found.select .all none = .ok t) :
    ∀ cells ∈ t.header :: t.rows, withoutReturn (Row.toLine cells) = Row.toLine cells := by
  obtain ⟨hheader, hrows⟩ := eq_of_select_all hshown
  cases hread
  have hwidth : (Row.ofLine (withoutReturn (Row.toLine t.header))).length = t.width :=
    congrArg List.length hheader.symm
  -- As many rows are shown as were written, so no line was skipped.
  have hlines : ((t.rows.map Row.toLine).map withoutReturn).filter (· != "") =
      (t.rows.map Row.toLine).map withoutReturn := by
    rw [List.filter_eq_self, ← List.length_filter_eq_length_iff]
    have hlength := congrArg List.length hrows
    simpa using hlength.symm
  have hsame : t.rows.map (fun cells => Row.project (List.range t.width)
      (Row.ofLine (withoutReturn (Row.toLine cells)))) = t.rows.map id := by
    change t.rows = ((((t.rows.map Row.toLine).map withoutReturn).filter (· != "")).map
      Row.ofLine).map (Row.project (List.range
        (Row.ofLine (withoutReturn (Row.toLine t.header))).length)) at hrows
    rw [hlines, hwidth, List.map_map, List.map_map, List.map_map] at hrows
    rw [List.map_id]
    exact hrows.symm
  intro cells hcells
  rcases List.mem_cons.mp hcells with rfl | hcells
  · have hline := congrArg Row.toLine hheader
    rw [Row.toLine_ofLine] at hline
    exact hline.symm
  · have hrow : Row.project (List.range t.width)
        (Row.ofLine (withoutReturn (Row.toLine cells))) = cells :=
      List.map_inj_left.mp hsame cells hcells
    have hcount : (Row.ofLine (withoutReturn (Row.toLine cells))).length = t.width := by
      rw [Row.length_ofLine_withoutReturn,
        Row.ofLine_toLine (h.encodable.row_ne_nil cells hcells) (h.row_tabFree cells hcells)]
      exact h.row_length cells hcells
    rw [Row.project_range hcount] at hrow
    have hline := congrArg Row.toLine hrow
    rwa [Row.toLine_ofLine] at hline

/-- A table that is shown as it was written was not damaged. -/
theorem WellFormed.isLine_of_shown {t found : Table} (h : t.WellFormed)
    (hread : ofLines? (Text.lines (Text.ofLines t.toLines)) = some found)
    (hshown : found.select .all none = .ok t) : ∀ line ∈ t.toLines, Text.IsLine line := by
  have hfree : ∀ line ∈ t.toLines, '\n' ∉ line.toList :=
    not_mem_toLines_of_shown hread (fun _ => Text.not_mem_of_mem_lines) hshown
  rw [Text.lines_ofLines hfree] at hread
  intro line hline
  refine ⟨hfree line hline, ?_⟩
  obtain ⟨cells, hcells, rfl⟩ := List.mem_map.mp hline
  have hkept := h.withoutReturn_toLine_of_shown hread hshown cells hcells
  exact Text.withoutReturn_eq_self_iff.mp hkept

end Table

end TextTables
