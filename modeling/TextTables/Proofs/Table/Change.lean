import TextTables.Proofs.Table.WellFormed

/-!
# Changes keep tables well-formed

A new table is well-formed, and so is every table that a change of a well-formed
one answers with.  The first cell of a row is never among the cells that are
changed: a statement does not name the key.
-/

namespace TextTables

open Text (sameWord)

/-! ## Cells -/

namespace Row

theorem pad_of_le_length {width : Nat} {cells : List String} (h : width ≤ cells.length) :
    pad width cells = cells := by
  rw [pad, Nat.sub_eq_zero_of_le h, List.replicate_zero, List.append_nil]

theorem pad_of_length_eq {width : Nat} {cells : List String} (h : cells.length = width) :
    pad width cells = cells :=
  pad_of_le_length h.ge

theorem length_assign (values : List (Nat × String)) (cells : List String) :
    (assign values cells).length = cells.length := by
  induction values generalizing cells with
  | nil => rfl
  | cons first rest ih =>
      rw [assign, List.foldl_cons]
      exact (ih _).trans List.length_set

theorem head?_assign {values : List (Nat × String)} (h : ∀ value ∈ values, value.1 ≠ 0)
    (cells : List String) : (assign values cells).head? = cells.head? := by
  induction values generalizing cells with
  | nil => rfl
  | cons first rest ih =>
      have hfirst : (cells.set first.1 first.2).head? = cells.head? := by
        have hne := h first List.mem_cons_self
        cases cells with
        | nil => rfl
        | cons cell more =>
            obtain ⟨place, hplace⟩ := Nat.exists_eq_succ_of_ne_zero hne
            rw [hplace, List.set_cons_succ, List.head?_cons, List.head?_cons]
      rw [assign, List.foldl_cons, ← hfirst]
      exact ih (fun value hvalue => h value (List.mem_cons_of_mem _ hvalue)) _

theorem head?_eraseIdx_succ (cells : List String) (place : Nat) :
    (cells.eraseIdx (place + 1)).head? = cells.head? := by
  cases cells with
  | nil => rfl
  | cons cell more => rfl

end Row

namespace Table

variable {t changed : Table}

/-! ## Places of columns -/

theorem lt_width_of_columnIndex? {column : String} {place : Nat}
    (h : t.columnIndex? column = some place) : place < t.width :=
  (List.findIdx?_eq_some_iff_getElem.mp h).1

/-- A heading is found where it stands as long as none before it is the same word. -/
theorem columnIndex?_getElem_iff {place : Nat} (hplace : place < t.header.length) :
    t.columnIndex? t.header[place] = some place ↔
      ∀ other (hother : other < place),
        sameWord t.header[other] t.header[place] = false := by
  refine List.findIdx?_eq_some_iff_getElem.trans ⟨?_, fun hbefore => ?_⟩
  · rintro ⟨_, _, hbefore⟩ other hother
    exact Bool.eq_false_iff.mpr (hbefore other hother)
  · refine ⟨hplace, Text.sameWord_refl _, fun other hother => ?_⟩
    exact Bool.eq_false_iff.mp (hbefore other hother)

/-- Only the key stands in the first place. -/
theorem WellFormed.columnIndex?_pos (h : t.WellFormed) {column : String} {place : Nat}
    (hkey : sameWord column keyColumn = false) (hplace : t.columnIndex? column = some place) :
    place ≠ 0 := by
  rintro rfl
  obtain ⟨columns, hheader, _⟩ := h.header
  obtain ⟨hlt, hsame, _⟩ := List.findIdx?_eq_some_iff_getElem.mp hplace
  simp only [hheader, List.getElem_cons_zero] at hsame
  rw [Text.sameWord_comm, hkey] at hsame
  cases hsame

/-! ## New tables -/

theorem wellFormed_of_areColumns {columns : List String} (h : AreColumns columns) :
    WellFormed ⟨keyColumn :: columns, []⟩ where
  header := ⟨columns, rfl, h⟩
  row_length := List.forall_mem_nil _
  row_tabFree := List.forall_mem_nil _
  keyed := ⟨[], keyed_nil⟩

/-! ## Rows -/

theorem insert_eq_ok_iff {values : List String} :
    t.insert values = .ok changed ↔ values.length = t.width - 1 ∧
      ∃ id, t.nextId? = some id ∧
        changed = { t with
          rows := t.rows ++ [Whole.toText id :: values.map Token.stripQuotes] } := by
  rw [insert.eq_def]
  simp only
  by_cases hcount : values.length = t.width - 1
  · rw [if_neg (by simpa using hcount)]
    cases t.nextId? with
    | none => exact iff_of_false (fun h => by cases h) fun ⟨_, _, h, _⟩ => by cases h
    | some id => simp [hcount, eq_comm]
  · rw [if_pos (by simpa using hcount)]
    exact iff_of_false (fun h => by cases h) fun h => hcount h.1

/-- What an accepted row is, under which id, and where it comes to stand. -/
theorem Keyed.insert_eq_ok {ids : List Int} (h : Keyed ids t.rows) {values : List String}
    (ht : t.insert values = .ok changed) :
    Whole.IsId (largest ids + 1) ∧ values.length = t.width - 1 ∧
      changed = { t with
        rows := t.rows ++
          [Whole.toText (largest ids + 1) :: values.map Token.stripQuotes] } := by
  obtain ⟨hcount, next, hnext, rfl⟩ := insert_eq_ok_iff.mp ht
  obtain ⟨rfl, hid⟩ := h.of_nextId?_eq_some hnext
  exact ⟨hid, hcount, rfl⟩

theorem WellFormed.insert (h : t.WellFormed) {values : List String}
    (hvalues : Row.Avoids '\t' values) (ht : t.insert values = .ok changed) :
    changed.WellFormed := by
  obtain ⟨ids, hids⟩ := h.keyed
  have hfree := (h.avoids_tab.insert Text.foreign_tab hvalues).of_eq_ok ht
  obtain ⟨hid, hcount, rfl⟩ := hids.insert_eq_ok ht
  refine ⟨h.header, ?_, hfree.rows, ids ++ [largest ids + 1], ?_⟩
  · intro row hrow
    rcases List.mem_append.mp hrow with hrow | hrow
    · exact h.row_length row hrow
    · rw [List.mem_singleton.mp hrow, List.length_cons, List.length_map, hcount]
      exact Nat.sub_add_cancel h.width_pos
  · refine hids.append hid fun id hmem => ?_
    exact Int.lt_add_one_of_le (le_largest hmem)

/-- The places that assignments name are never that of the key. -/
theorem WellFormed.targets_eq_ok (h : t.WellFormed) {assignments : List (String × String)}
    (hassignments : ∀ assignment ∈ assignments, sameWord assignment.1 keyColumn = false)
    {targets : List (Nat × String)} (ht : t.targets assignments = .ok targets) :
    ∀ target ∈ targets, target.1 ≠ 0 := by
  intro target htarget
  obtain ⟨⟨column, value⟩, hmem, heq⟩ := exists_mem_of_mem_mapM ht htarget
  simp only at heq
  split at heq
  · next place hplace =>
      cases heq
      exact h.columnIndex?_pos (hassignments _ hmem) hplace
  · cases heq

/-- Rows may be changed behind their first cells. -/
theorem WellFormed.mapRows (h : t.WellFormed) {f : List String → List String}
    (hlength : ∀ row ∈ t.rows, (f row).length = t.width)
    (hhead : ∀ row ∈ t.rows, (f row).head? = row.head?)
    (hfree : Avoids '\t' { t with rows := t.rows.map f }) :
    WellFormed { t with rows := t.rows.map f } := by
  obtain ⟨ids, hids⟩ := h.keyed
  refine ⟨h.header, ?_, hfree.rows, ids, hids.map hhead⟩
  intro row hrow
  obtain ⟨old, hold, rfl⟩ := List.mem_map.mp hrow
  exact hlength old hold

theorem WellFormed.update (h : t.WellFormed) {assignments : List (String × String)}
    {condition : Option Condition}
    (hassignments : ∀ assignment ∈ assignments,
      sameWord assignment.1 keyColumn = false ∧ Text.FreeOf '\t' assignment.2)
    (ht : t.update assignments condition = .ok changed) : changed.WellFormed := by
  have hvalues := fun assignment hmem => (hassignments assignment hmem).2
  have hfree := (h.avoids_tab.update Text.foreign_tab hvalues condition).of_eq_ok ht
  obtain ⟨targets, htargets, ht⟩ := exists_of_bind_eq_ok ht
  cases ht
  have hplaces := h.targets_eq_ok (fun assignment hmem => (hassignments assignment hmem).1)
    htargets
  refine h.mapRows ?_ ?_ hfree
  · intro row hrow
    split
    · rw [Row.pad_of_length_eq (h.row_length row hrow), Row.length_assign]
      exact h.row_length row hrow
    · exact h.row_length row hrow
  · intro row hrow
    split
    · rw [Row.pad_of_length_eq (h.row_length row hrow)]
      exact Row.head?_assign hplaces row
    · rfl

theorem WellFormed.delete (h : t.WellFormed) (condition : Option Condition) :
    (t.delete condition).WellFormed := by
  cases condition with
  | none => exact h
  | some condition =>
      obtain ⟨ids, hids⟩ := h.keyed
      refine ⟨h.header, ?_, ?_, hids.sublist List.filter_sublist⟩
      · exact fun row hrow => h.row_length row (List.mem_filter.mp hrow).1
      · exact fun row hrow => h.row_tabFree row (List.mem_filter.mp hrow).1

/-! ## Columns -/

theorem AreColumns.append {columns : List String} {column : String} (h : AreColumns columns)
    (hname : Token.isName column = true)
    (hnew : ∀ heading ∈ keyColumn :: columns, sameWord heading column = false) :
    AreColumns (columns ++ [column]) := by
  constructor
  · intro heading hheading
    rcases List.mem_append.mp hheading with hheading | hheading
    · exact h.1 heading hheading
    · rw [List.mem_singleton.mp hheading]
      exact hname
  · rw [← List.cons_append, List.pairwise_append]
    refine ⟨h.2, List.pairwise_singleton _ _, ?_⟩
    intro heading hheading other hother
    rw [List.mem_singleton.mp hother]
    exact hnew heading hheading

theorem AreColumns.sublist {columns kept : List String} (h : AreColumns columns)
    (hkept : kept.Sublist columns) : AreColumns kept :=
  ⟨fun column hcolumn => h.1 column (hkept.subset hcolumn), h.2.sublist (hkept.cons_cons _)⟩

/-- There is nothing to fill up where every row has the width of the header. -/
theorem padded_eq_self (h : ∀ row ∈ t.rows, row.length = t.width) : t.padded = t := by
  have hrows : t.rows.map (Row.pad t.width) = t.rows := by
    calc
      t.rows.map (Row.pad t.width) = t.rows.map id :=
        List.map_congr_left fun row hrow => Row.pad_of_length_eq (h row hrow)
      _ = t.rows := List.map_id _
  rw [padded, hrows]

/-- A table whose header and rows were changed at the same places behind the key. -/
theorem WellFormed.mapColumns (h : t.WellFormed) {columns : List String}
    {f : List String → List String} (hcolumns : AreColumns columns)
    (hlength : ∀ row ∈ t.rows, (f row).length = (keyColumn :: columns).length)
    (hhead : ∀ row ∈ t.rows, (f row).head? = row.head?)
    (hfree : (padded ⟨keyColumn :: columns, t.rows.map f⟩).Avoids '\t') :
    (padded ⟨keyColumn :: columns, t.rows.map f⟩).WellFormed := by
  have hrows : ∀ row ∈ t.rows.map f, row.length = (keyColumn :: columns).length := by
    intro row hrow
    obtain ⟨old, hold, rfl⟩ := List.mem_map.mp hrow
    exact hlength old hold
  obtain ⟨ids, hids⟩ := h.keyed
  rw [padded_eq_self hrows] at hfree ⊢
  exact ⟨⟨columns, rfl, hcolumns⟩, hrows, hfree.rows, ids, hids.map hhead⟩

theorem WellFormed.addColumn (h : t.WellFormed) {column : String}
    (hname : Token.isName column = true) (hnew : t.columnIndex? column = none)
    (hfree : (padded ⟨t.header ++ [column], t.rows.map (· ++ [Row.null])⟩).Avoids '\t') :
    (padded ⟨t.header ++ [column], t.rows.map (· ++ [Row.null])⟩).WellFormed := by
  obtain ⟨columns, hheader, hcolumns⟩ := h.header
  have hdifferent : ∀ heading ∈ t.header, sameWord heading column = false :=
    List.findIdx?_eq_none_iff.mp hnew
  rw [hheader, List.cons_append] at hfree ⊢
  rw [hheader] at hdifferent
  refine h.mapColumns (hcolumns.append hname hdifferent) ?_ ?_ hfree
  · intro row hrow
    have hwidth := h.row_length row hrow
    rw [width, hheader] at hwidth
    simp [hwidth]
  · intro row hrow
    obtain ⟨id, _, hhead⟩ := h.exists_head? hrow
    rw [List.head?_append, hhead, Option.some_or]

theorem WellFormed.dropColumn (h : t.WellFormed) {place : Nat} (hplace : place < t.width)
    (hne : place ≠ 0)
    (hfree : (padded ⟨t.header.eraseIdx place, t.rows.map (·.eraseIdx place)⟩).Avoids '\t') :
    (padded ⟨t.header.eraseIdx place, t.rows.map (·.eraseIdx place)⟩).WellFormed := by
  obtain ⟨place, rfl⟩ := Nat.exists_eq_succ_of_ne_zero hne
  obtain ⟨columns, hheader, hcolumns⟩ := h.header
  have hkept : (columns.eraseIdx place).Sublist columns := List.eraseIdx_sublist columns place
  rw [hheader, List.eraseIdx_cons_succ] at hfree ⊢
  refine h.mapColumns (hcolumns.sublist hkept) ?_ ?_ hfree
  · intro row hrow
    have hwidth := h.row_length row hrow
    rw [width, hheader, List.length_cons] at hwidth hplace
    rw [List.length_eraseIdx_of_lt (by omega), hwidth, List.length_cons,
      List.length_eraseIdx_of_lt (by omega)]
    omega
  · intro row hrow
    exact Row.head?_eraseIdx_succ row place

/-- What an alteration makes of a table: a column that is not there is added at the end, or
the first one of the name is taken out. -/
inductive Alters (t : Table) (column : String) : Alteration → Table → Prop
  | add (hnew : t.columnIndex? column = none) :
      Alters t column .add (padded ⟨t.header ++ [column], t.rows.map (· ++ [Row.null])⟩)
  | drop {place : Nat} (hplace : t.columnIndex? column = some place) :
      Alters t column .drop (padded ⟨t.header.eraseIdx place, t.rows.map (·.eraseIdx place)⟩)

theorem alter_eq_ok_iff {change : Alteration} {column : String} :
    t.alter change column = .ok changed ↔
      sameWord column keyColumn = false ∧ t.Alters column change changed := by
  constructor
  · intro h
    unfold alter at h
    split at h
    · cases h
    · next hkey =>
        refine ⟨Bool.eq_false_iff.mpr hkey, ?_⟩
        split at h
        · cases h
        · next hnew =>
            cases h
            exact .add hnew
        · cases h
        · next place hplace =>
            cases h
            exact .drop hplace
  · rintro ⟨hkey, halters⟩
    rw [alter.eq_def, if_neg (Bool.eq_false_iff.mp hkey)]
    cases halters with
    | add hnew => rw [hnew]
    | drop hplace => rw [hplace]

theorem WellFormed.alter (h : t.WellFormed) {change : Alteration} {column : String}
    (hname : Token.isName column = true) (ht : t.alter change column = .ok changed) :
    changed.WellFormed := by
  have hfree := (h.avoids_tab.alter Text.foreign_tab hname change).of_eq_ok ht
  obtain ⟨hkey, halters⟩ := alter_eq_ok_iff.mp ht
  cases halters with
  | add hnew => exact h.addColumn hname hnew hfree
  | drop hplace =>
      exact h.dropColumn (lt_width_of_columnIndex? hplace) (h.columnIndex?_pos hkey hplace) hfree

end Table

end TextTables
