import TextTables.Proofs.Table.Cells
import TextTables.Proofs.Table.Encoding

/-!
# Well-formed tables

The header of a well-formed table begins with the key and goes on with different
names, its rows are as wide as the header, and the ids in their first cells rise.
Every change of a table that is carried out keeps it so.
-/

namespace TextTables.Row

theorem project_range {cells : List String} {width : Nat} (h : cells.length = width) :
    project (List.range width) cells = cells := by
  apply List.ext_getElem
  · rw [project, List.length_map, List.length_range, h]
  · intro place hprojected hplace
    simp [project, cellAt, hplace]

end TextTables.Row

namespace TextTables.Table

open Text (sameWord)

/-- Columns that can follow the key in a header: names, of which no two are the same
word, nor one the key. -/
def AreColumns (columns : List String) : Prop :=
  (∀ column ∈ columns, Token.isName column = true) ∧
    (keyColumn :: columns).Pairwise fun a b => sameWord a b = false

/-- Rows that begin with these ids, and the ids rise. -/
structure Keyed (ids : List Int) (rows : List (List String)) : Prop where
  heads : rows.map List.head? = ids.map (some ∘ Whole.toText)
  rising : ids.Pairwise (· < ·)
  isId : ∀ id ∈ ids, Whole.IsId id

/-- What a table is like when it was made and changed by statements only. -/
structure WellFormed (t : Table) : Prop where
  header : ∃ columns, t.header = keyColumn :: columns ∧ AreColumns columns
  row_length : ∀ row ∈ t.rows, row.length = t.width
  row_tabFree : ∀ row ∈ t.rows, ∀ cell ∈ row, Row.TabFree cell
  keyed : ∃ ids, Keyed ids t.rows

/-! ## Ids -/

theorem keyed_nil : Keyed [] [] :=
  ⟨rfl, List.Pairwise.nil, List.forall_mem_nil _⟩

/-- Changes behind the first cells leave the ids alone. -/
theorem Keyed.map {ids : List Int} {rows : List (List String)}
    {f : List String → List String} (h : Keyed ids rows)
    (hf : ∀ row ∈ rows, (f row).head? = row.head?) : Keyed ids (rows.map f) := by
  refine ⟨?_, h.rising, h.isId⟩
  rw [List.map_map, ← h.heads]
  exact List.map_congr_left hf

/-- The rows that are left have the ids that they had. -/
theorem Keyed.sublist {ids : List Int} {rows kept : List (List String)}
    (h : Keyed ids rows) (hkept : kept.Sublist rows) : ∃ ids', Keyed ids' kept := by
  have hheads : (kept.map List.head?).Sublist (ids.map (some ∘ Whole.toText)) := by
    rw [← h.heads]
    exact hkept.map _
  obtain ⟨ids', hsub, heq⟩ := List.sublist_map_iff.mp hheads
  exact ⟨ids', heq, h.rising.sublist hsub, fun id hid => h.isId id (hsub.subset hid)⟩

theorem Keyed.append {ids : List Int} {rows : List (List String)} {next : Int}
    {cells : List String} (h : Keyed ids rows) (hnext : Whole.IsId next)
    (hlt : ∀ id ∈ ids, id < next) :
    Keyed (ids ++ [next]) (rows ++ [Whole.toText next :: cells]) := by
  refine ⟨?_, ?_, ?_⟩
  · simp [h.heads]
  · rw [List.pairwise_append]
    refine ⟨h.rising, List.pairwise_singleton _ _, ?_⟩
    intro id hid other hother
    rw [List.mem_singleton.mp hother]
    exact hlt id hid
  · intro id hid
    rcases List.mem_append.mp hid with hid | hid
    · exact h.isId id hid
    · rw [List.mem_singleton.mp hid]
      exact hnext

theorem Keyed.head?_getLast? {ids : List Int} {rows : List (List String)}
    (h : Keyed ids rows) :
    rows.getLast?.map List.head? = ids.getLast?.map (some ∘ Whole.toText) := by
  rw [← List.getLast?_map, ← List.getLast?_map, h.heads]

/-- The largest of some ids, and zero where there are none. -/
def largest (ids : List Int) : Int :=
  ids.max?.getD 0

theorem le_largest {ids : List Int} {id : Int} (h : id ∈ ids) : id ≤ largest ids := by
  rw [largest]
  cases hmax : ids.max? with
  | none =>
      rw [List.max?_eq_none_iff.mp hmax] at h
      cases h
  | some top => exact (List.max?_eq_some_iff.mp hmax).2 id h

theorem largest_concat_eq_iff {ids : List Int} {last : Int} :
    largest (ids ++ [last]) = last ↔ ∀ id ∈ ids, id ≤ last := by
  constructor
  · intro h id hid
    exact Int.le_trans (le_largest (List.mem_append_left _ hid)) (Int.le_of_eq h)
  · intro h
    have hmax : (ids ++ [last]).max? = some last := by
      refine List.max?_eq_some_iff.mpr ⟨by simp, fun id hid => ?_⟩
      rcases List.mem_append.mp hid with hid | hid
      · exact h id hid
      · exact Int.le_of_eq (List.mem_singleton.mp hid)
    rw [largest, hmax, Option.getD_some]

/-- Of rising ids the last is the largest. -/
theorem largest_concat {ids : List Int} {last : Int}
    (h : (ids ++ [last]).Pairwise (· < ·)) : largest (ids ++ [last]) = last :=
  largest_concat_eq_iff.mpr fun id hid =>
    Int.le_of_lt ((List.pairwise_append.mp h).2.2 id hid last (by simp))

/-- A row is given the id after the largest one there is. -/
theorem Keyed.of_nextId?_eq_some {t : Table} {ids : List Int} {next : Int}
    (h : Keyed ids t.rows) (hnext : t.nextId? = some next) :
    next = largest ids + 1 ∧ Whole.IsId next := by
  unfold nextId? at hnext
  have hlast := h.head?_getLast?
  rcases List.eq_nil_or_concat ids with rfl | ⟨before, last, rfl⟩
  · cases hrow : t.rows.getLast? with
    | none =>
        rw [hrow] at hnext
        cases hnext
        exact ⟨rfl, by decide, by decide⟩
    | some row =>
        rw [hrow] at hlast
        cases hlast
  · rw [List.concat_eq_append] at h hlast ⊢
    have hid : Whole.IsId last := h.isId last (by simp)
    cases hrow : t.rows.getLast? with
    | none =>
        rw [hrow, List.getLast?_concat] at hlast
        cases hlast
    | some row =>
        rw [hrow, List.getLast?_concat] at hlast
        have hhead : row.head? = some (Whole.toText last) := by simpa using hlast
        simp only [hrow, hhead, Option.bind_eq_bind, Option.bind_some,
          hid.signed?_trim_toText] at hnext
        rw [largest_concat h.rising]
        exact Whole.isId_of_next?_eq_some hid hnext

/-! ## What a well-formed table is like -/

/-- Without a condition every row is asked for. -/
theorem filter_matchesRow_none (t : Table) : t.rows.filter (t.matchesRow none) = t.rows :=
  List.filter_eq_self.mpr fun _ _ => rfl

/-- A query of all columns shows the rows that it asks for, each as wide as the header. -/
theorem select_all_eq (t : Table) (condition : Option Condition) :
    t.select .all condition =
      .ok ⟨t.header, (t.rows.filter (t.matchesRow condition)).map
        (Row.project (List.range t.width))⟩ := by
  have hheader : Row.project (List.range t.width) t.header = t.header :=
    Row.project_range rfl
  change Except.ok (Table.mk _ _) = _
  rw [hheader]

/-- Rows as wide as the header are shown as they are. -/
theorem select_all_eq_of_forall_length {t : Table} (h : ∀ row ∈ t.rows, row.length = t.width)
    (condition : Option Condition) :
    t.select .all condition = .ok ⟨t.header, t.rows.filter (t.matchesRow condition)⟩ := by
  have hwhole : ∀ row ∈ t.rows.filter (t.matchesRow condition),
      Row.project (List.range t.width) row = id row := by
    intro row hrow
    exact Row.project_range (h row (List.mem_filter.mp hrow).1)
  rw [select_all_eq, List.map_congr_left hwhole, List.map_id]

namespace WellFormed

variable {t : Table}

theorem header_ne_nil (h : t.WellFormed) : t.header ≠ [] := by
  obtain ⟨columns, hheader, _⟩ := h.header
  rw [hheader]
  exact List.cons_ne_nil _ _

theorem width_pos (h : t.WellFormed) : 0 < t.width :=
  List.length_pos_iff.mpr h.header_ne_nil

/-- Every row begins with an id. -/
theorem exists_head? (h : t.WellFormed) {row : List String} (hrow : row ∈ t.rows) :
    ∃ id, Whole.IsId id ∧ row.head? = some (Whole.toText id) := by
  obtain ⟨ids, hids⟩ := h.keyed
  have hmem : row.head? ∈ t.rows.map List.head? := List.mem_map_of_mem hrow
  rw [hids.heads] at hmem
  obtain ⟨id, hid, heq⟩ := List.mem_map.mp hmem
  exact ⟨id, hids.isId id hid, heq.symm⟩

/-- The headings are names, and the cells are free of tabs. -/
theorem avoids_tab (h : t.WellFormed) : t.Avoids '\t' := by
  obtain ⟨columns, hheader, hcolumns⟩ := h.header
  refine ⟨fun d hd heading hheading => ?_, h.row_tabFree⟩
  rw [hheader] at hheading
  rcases List.mem_cons.mp hheading with rfl | hheading
  · exact hd.freeOf_of_isName (by decide)
  · exact hd.freeOf_of_isName (hcolumns.1 heading hheading)

/-- No row of a well-formed table is lost or cut where the table is written on
lines. -/
theorem encodable (h : t.WellFormed) : t.Encodable where
  header_ne_nil := h.header_ne_nil
  header_tabFree := h.avoids_tab.header '\t' Text.foreign_tab
  row_ne_nil := by
    rintro row hrow rfl
    obtain ⟨id, _, hhead⟩ := h.exists_head? hrow
    cases hhead
  row_ne_blank := by
    rintro row hrow rfl
    obtain ⟨id, hid, hhead⟩ := h.exists_head? hrow
    exact hid.toText_ne_empty (Option.some.inj hhead).symm
  row_tabFree := h.row_tabFree

/-- A query of all columns shows the rows that it asks for as they are. -/
theorem select_all_eq_filter (h : t.WellFormed) (condition : Option Condition) :
    t.select .all condition = .ok ⟨t.header, t.rows.filter (t.matchesRow condition)⟩ :=
  select_all_eq_of_forall_length h.row_length condition

/-- A query of everything is answered with the table itself. -/
theorem select_all (h : t.WellFormed) : t.select .all none = .ok t := by
  rw [h.select_all_eq_filter, filter_matchesRow_none]

end WellFormed

end TextTables.Table
