import TextTables.Proofs.Table.Numbering

/-!
# Writing and reading undo each other

Lines say more than a table only by empty lines below the header, and a table says more than
its lines only by rows that make an empty line, by tabs inside of cells and by a header
without columns.  Beside that nothing is lost in either direction: the tables that can be
read are exactly those that are read again from their own lines.
-/

namespace TextTables.Table

variable {t : Table} {lines : List String}

/-- What is read is a table that can be written. -/
theorem encodable_of_ofLines? (h : ofLines? lines = some t) : t.Encodable := by
  obtain ⟨hheader, hrows⟩ := tabFree_of_ofLines? h
  -- A row comes from a line that is not empty, and its cells make that line again.
  have hfull : ∀ row ∈ t.rows, Row.toLine row ≠ "" := by
    cases lines with
    | nil => cases h
    | cons first rest =>
        cases h
        intro row hrow
        obtain ⟨line, hline, rfl⟩ := List.mem_map.mp hrow
        rw [Row.toLine_ofLine]
        exact bne_iff_ne.mp (List.mem_filter.mp hline).2
  exact {
    header_ne_nil := header_ne_nil_of_ofLines? h
    header_tabFree := hheader
    row_ne_nil := fun row hrow hnil =>
      hfull row hrow (Row.toLine_eq_empty_iff.mpr (Or.inl hnil))
    row_ne_blank := fun row hrow hblank =>
      hfull row hrow (Row.toLine_eq_empty_iff.mpr (Or.inr hblank))
    row_tabFree := hrows }

theorem ofLines?_toLines_eq_some_iff : ofLines? t.toLines = some t ↔ t.Encodable :=
  ⟨encodable_of_ofLines?, ofLines?_toLines⟩

/-- All that is not written again are empty lines below the header. -/
theorem toLines_of_ofLines? (header : String) (below : List String) :
    (ofLines? (header :: below)).map toLines = some (header :: below.filter (· != "")) := by
  have hlines : ∀ given : List String, (given.map Row.ofLine).map Row.toLine = given := by
    intro given
    rw [List.map_map]
    exact (List.map_congr_left fun line _ => Row.toLine_ofLine line).trans (List.map_id given)
  rw [ofLines?, Option.map_some, toLines, List.map_cons, Row.toLine_ofLine, hlines]

/-- **Writing and reading undo each other.**  A table is read again from its own lines exactly
if its header has a column, no row is without cells or a single empty cell, and no cell of the
header or of a row has a tab.  And lines, of which the first is the header, are written again
from the table that they hold, with the empty ones below the header left out. -/
theorem written_and_read_again :
    (∀ t : Table, ofLines? t.toLines = some t ↔
      t.header ≠ [] ∧ (∀ row ∈ t.rows, row ≠ [] ∧ row ≠ [""]) ∧
        ∀ cells ∈ t.header :: t.rows, ∀ cell ∈ cells, '\t' ∉ cell.toList) ∧
    ∀ (header : String) (below : List String), ∃ t, ofLines? (header :: below) = some t ∧
      t.toLines = header :: below.filter (· != "") := by
  constructor
  · intro t
    rw [ofLines?_toLines_eq_some_iff, List.forall_mem_cons]
    constructor
    · intro h
      have hrows : ∀ row ∈ t.rows, row ≠ [] ∧ row ≠ [""] :=
        fun row hrow => ⟨h.row_ne_nil row hrow, h.row_ne_blank row hrow⟩
      exact ⟨h.header_ne_nil, hrows, h.header_tabFree, h.row_tabFree⟩
    · rintro ⟨hheader, hrows, hheadings, hcells⟩
      exact ⟨hheader, hheadings, fun row hrow => (hrows row hrow).1,
        fun row hrow => (hrows row hrow).2, hcells⟩
  · intro header below
    exact Option.map_eq_some_iff.mp (toLines_of_ofLines? header below)

end TextTables.Table
