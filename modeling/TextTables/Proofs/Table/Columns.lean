import TextTables.Proofs.Condition.Tests
import TextTables.Proofs.Table.Assignment
import TextTables.Proofs.Table.Damage

/-!
# Columns that are added and taken out

An alteration moves the columns behind the one that is taken out, in the header and in every
row alike, and fills up the rows that are too short.  So it is followed place by place.
Where the rows are as wide as the header, the other columns hold under their names what they
held, so no query that names them only can tell the difference.
-/

namespace TextTables

open Text (sameWord)

/-! ## Lists entry by entry -/

section

variable {α β γ : Type} {R : α → β → Prop} {items : List α} {others : List β}

theorem forall_mem_iff_of_forall₂ (h : List.Forall₂ R items others) {p : α → Prop} {q : β → Prop}
    (hR : ∀ a b, R a b → (p a ↔ q b)) : (∀ a ∈ items, p a) ↔ ∀ b ∈ others, q b := by
  induction h with
  | nil => exact iff_of_true (List.forall_mem_nil _) (List.forall_mem_nil _)
  | cons hfirst _ ih => rw [List.forall_mem_cons, List.forall_mem_cons, hR _ _ hfirst, ih]

/-- What is alike entry by entry is picked alike and looks alike. -/
theorem map_filter_eq_of_forall₂ (h : List.Forall₂ R items others) {p : α → Bool} {q : β → Bool}
    {f : α → γ} {g : β → γ} (hpick : ∀ a b, R a b → p a = q b)
    (hlook : ∀ a b, R a b → f a = g b) : (items.filter p).map f = (others.filter q).map g := by
  induction h with
  | nil => rfl
  | cons hfirst _ ih =>
      rw [List.filter_cons, List.filter_cons, hpick _ _ hfirst]
      split
      · rw [List.map_cons, List.map_cons, hlook _ _ hfirst, ih]
      · exact ih

end

namespace Row

/-! ## Places -/

/-- Where a cell comes to stand when another one is taken out. -/
def placeWithout (removed place : Nat) : Nat :=
  if removed < place then place - 1 else place

theorem placeWithout_succ (removed place : Nat) :
    placeWithout (removed + 1) (place + 1) = placeWithout removed place + 1 := by
  by_cases hlt : removed < place
  · rw [placeWithout, placeWithout, if_pos hlt, if_pos (by omega)]
    omega
  · rw [placeWithout, placeWithout, if_neg hlt, if_neg (by omega)]

theorem getElem?_eraseIdx_placeWithout (cells : List String) {removed place : Nat}
    (h : place ≠ removed) : (cells.eraseIdx removed)[placeWithout removed place]? =
      cells[place]? := by
  rw [List.getElem?_eraseIdx, placeWithout]
  by_cases hlt : removed < place
  · rw [if_pos hlt, if_neg (by omega), Nat.sub_add_cancel (by omega)]
  · rw [if_neg hlt, if_pos (by omega)]

theorem cellAt_eraseIdx (cells : List String) {removed place : Nat} (h : place ≠ removed) :
    cellAt (cells.eraseIdx removed) (placeWithout removed place) = cellAt cells place := by
  rw [cellAt, getElem?_eraseIdx_placeWithout cells h, cellAt]

theorem eraseIdx_append_singleton (cells : List String) (cell : String) :
    (cells ++ [cell]).eraseIdx cells.length = cells := by
  rw [List.eraseIdx_append_of_length_le (Nat.le_refl _), Nat.sub_self]
  exact List.append_nil _

/-- A cell that says that nothing is there makes no difference. -/
theorem cellAt_append_null (cells : List String) (place : Nat) :
    cellAt (cells ++ [null]) place = cellAt cells place := by
  rw [cellAt, cellAt, List.getElem?_append]
  by_cases hlt : place < cells.length
  · rw [if_pos hlt]
  · rw [if_neg hlt, List.getElem?_eq_none (Nat.le_of_not_lt hlt)]
    cases place - cells.length with
    | zero => rfl
    | succ more => rfl

theorem length_pad (width : Nat) (cells : List String) :
    (pad width cells).length = max cells.length width := by
  rw [pad, List.length_append, List.length_replicate]
  omega

theorem getElem?_pad {width place : Nat} (h : place < width) (cells : List String) :
    (pad width cells)[place]? = some (cellAt cells place) := by
  rw [pad, cellAt, List.getElem?_append]
  by_cases hlt : place < cells.length
  · rw [if_pos hlt, List.getElem?_eq_getElem hlt]
    rfl
  · rw [if_neg hlt, List.getElem?_eq_none (Nat.le_of_not_lt hlt),
      List.getElem?_replicate_of_lt (by omega)]
    rfl

theorem columnIndex?_cons (heading : String) (header : List String) (column : String) :
    columnIndex? (heading :: header) column =
      if sameWord heading column then some 0
      else (columnIndex? header column).map (· + 1) := by
  rw [columnIndex?, List.findIdx?_cons]
  rfl

/-- A column is found where it came to stand, as long as another one was taken out. -/
theorem columnIndex?_eraseIdx {header : List String} {removed : Nat} {column : String}
    (h : ∀ heading ∈ header[removed]?, sameWord heading column = false) :
    columnIndex? (header.eraseIdx removed) column =
      (columnIndex? header column).map (placeWithout removed) := by
  induction header generalizing removed with
  | nil => rfl
  | cons first rest ih =>
      cases removed with
      | zero =>
          have hfirst : sameWord first column = false := h first rfl
          rw [List.eraseIdx_cons_zero, columnIndex?_cons, hfirst]
          cases columnIndex? rest column with
          | none => rfl
          | some place => rfl
      | succ removed =>
          rw [List.eraseIdx_cons_succ, columnIndex?_cons, columnIndex?_cons, ih h]
          cases sameWord first column with
          | true => rfl
          | false =>
              cases columnIndex? rest column with
              | none => rfl
              | some place => exact congrArg some (placeWithout_succ removed place).symm

end Row

namespace Table

variable {t changed : Table} {change : Alteration} {column other : String}

/-- Where the column at a place comes to stand when this column is taken out, or is added at
the end. -/
def placeAfter (t : Table) (column : String) (place : Nat) : Nat :=
  match t.columnIndex? column with
  | some removed => Row.placeWithout removed place
  | none => place

/-- What an alteration leaves of a row.  A row that is too short is filled up, and from one
that is too long nothing is cut off.  The other columns keep their cells, and a column that
is added gets what stood behind the last one. -/
structure RowAltered (t : Table) (change : Alteration) (column : String) (changed : Table)
    (row after : List String) : Prop where
  width_le : changed.width ≤ after.length
  length_eq_iff : after.length = changed.width ↔ row.length ≤ t.width
  kept : ∀ place < t.width, t.columnIndex? column ≠ some place →
    after[t.placeAfter column place]? = some (Row.cellAt row place)
  added : change = .add → after[t.width]? = some (Row.cellAt row t.width)

/-- What an alteration leaves of a table. -/
structure IsAltered (t : Table) (change : Alteration) (column : String) (changed : Table) :
    Prop where
  width_eq : changed.width = match change with
    | .add => t.width + 1
    | .drop => t.width - 1
  heading : ∀ place < t.width, t.columnIndex? column ≠ some place →
    changed.header[t.placeAfter column place]? = t.header[place]?
  added : change = .add → changed.columnIndex? column = some t.width
  rows : List.Forall₂ (t.RowAltered change column changed) t.rows changed.rows

theorem placeAfter_of_none (h : t.columnIndex? column = none) (place : Nat) :
    t.placeAfter column place = place := by
  rw [placeAfter, h]

theorem placeAfter_of_some {removed : Nat} (h : t.columnIndex? column = some removed)
    (place : Nat) : t.placeAfter column place = Row.placeWithout removed place := by
  rw [placeAfter, h]

/-- A column that is not there is added behind the last one. -/
theorem columnIndex?_append_self (h : t.columnIndex? column = none) :
    Row.columnIndex? (t.header ++ [column]) column = some t.width := by
  rw [columnIndex?, Row.columnIndex?] at h
  rw [Row.columnIndex?, List.findIdx?_append, h, List.findIdx?_singleton,
    if_pos (Text.sameWord_refl column)]
  exact congrArg some (Nat.zero_add _)

/-- A row is changed in its cells first, and then filled up. -/
theorem rowAltered_pad {row cells : List String}
    (hlength : cells.length ≤ changed.width ↔ row.length ≤ t.width)
    (hkept : ∀ place < t.width, t.columnIndex? column ≠ some place →
      t.placeAfter column place < changed.width ∧
        Row.cellAt cells (t.placeAfter column place) = Row.cellAt row place)
    (hadded : change = .add →
      t.width < changed.width ∧ Row.cellAt cells t.width = Row.cellAt row t.width) :
    t.RowAltered change column changed row (Row.pad changed.width cells) where
  width_le := by
    rw [Row.length_pad]
    exact Nat.le_max_right _ _
  length_eq_iff := by
    rw [Row.length_pad, ← hlength]
    exact max_eq_right_iff
  kept := by
    intro place hplace hother
    obtain ⟨hlt, hcell⟩ := hkept place hplace hother
    rw [Row.getElem?_pad hlt, hcell]
  added := by
    intro hadd
    obtain ⟨hlt, hcell⟩ := hadded hadd
    rw [Row.getElem?_pad hlt, hcell]

theorem isAltered_add (h : t.columnIndex? column = none) :
    t.IsAltered .add column (padded ⟨t.header ++ [column], t.rows.map (· ++ [Row.null])⟩) where
  width_eq := List.length_append
  heading := by
    intro place hplace _
    rw [placeAfter_of_none h]
    exact List.getElem?_append_left hplace
  added := fun _ => columnIndex?_append_self h
  rows := by
    have hwidth : (padded ⟨t.header ++ [column], t.rows.map (· ++ [Row.null])⟩).width =
        t.width + 1 := List.length_append
    refine List.forall₂_map_right_iff.mpr (List.forall₂_map_right_iff.mpr ?_)
    refine List.forall₂_same.mpr fun row _ => rowAltered_pad ?_ ?_ ?_
    · rw [hwidth, List.length_append, List.length_singleton]
      exact Nat.succ_le_succ_iff
    · intro place hplace _
      rw [placeAfter_of_none h, Row.cellAt_append_null, hwidth]
      exact ⟨Nat.lt_succ_of_lt hplace, rfl⟩
    · intro _
      rw [Row.cellAt_append_null, hwidth]
      exact ⟨Nat.lt_succ_self _, rfl⟩

theorem isAltered_drop {removed : Nat} (h : t.columnIndex? column = some removed) :
    t.IsAltered .drop column
      (padded ⟨t.header.eraseIdx removed, t.rows.map (·.eraseIdx removed)⟩) where
  width_eq := List.length_eraseIdx_of_lt (lt_width_of_columnIndex? h)
  heading := by
    intro place _ hother
    rw [placeAfter_of_some h]
    refine Row.getElem?_eraseIdx_placeWithout t.header ?_
    rintro rfl
    exact hother h
  added := nofun
  rows := by
    have hremoved : removed < t.width := lt_width_of_columnIndex? h
    have hwidth : (padded ⟨t.header.eraseIdx removed, t.rows.map (·.eraseIdx removed)⟩).width =
        t.width - 1 := List.length_eraseIdx_of_lt hremoved
    refine List.forall₂_map_right_iff.mpr (List.forall₂_map_right_iff.mpr ?_)
    refine List.forall₂_same.mpr fun row _ => rowAltered_pad ?_ ?_ nofun
    · rw [hwidth, List.length_eraseIdx]
      split
      · omega
      · omega
    · intro place hplace hother
      have hne : place ≠ removed := by
        rintro rfl
        exact hother h
      rw [placeAfter_of_some h, Row.cellAt_eraseIdx row hne, hwidth]
      refine ⟨?_, rfl⟩
      rw [Row.placeWithout]
      split
      · omega
      · omega

theorem Alters.isAltered (h : t.Alters column change changed) :
    t.IsAltered change column changed := by
  cases h with
  | add hnew => exact isAltered_add hnew
  | drop hplace => exact isAltered_drop hplace

/-- After an alteration all rows are as wide as the header exactly if none was wider. -/
theorem IsAltered.forall_length_eq_iff (h : t.IsAltered change column changed) :
    (∀ row ∈ changed.rows, row.length = changed.width) ↔ ∀ row ∈ t.rows, row.length ≤ t.width :=
  (forall_mem_iff_of_forall₂ h.rows fun _ _ hrow => hrow.length_eq_iff.symm).symm

/-- A column that is added is empty exactly if nothing stood behind the last column. -/
theorem IsAltered.forall_null_iff (h : t.IsAltered .add column changed) :
    (∀ row ∈ changed.rows, row[t.width]? = some Row.null) ↔
      ∀ row ∈ t.rows, Row.cellAt row t.width = Row.null := by
  refine (forall_mem_iff_of_forall₂ h.rows fun row after hrow => ?_).symm
  rw [hrow.added rfl, Option.some_inj]

/-! ## Reading again -/

theorem Alters.tabFree (h : t.Alters column change changed) (hcolumn : Row.TabFree column)
    (hheader : ∀ heading ∈ t.header, Row.TabFree heading)
    (hrows : ∀ row ∈ t.rows, ∀ cell ∈ row, Row.TabFree cell) :
    (∀ heading ∈ changed.header, Row.TabFree heading) ∧
      ∀ row ∈ changed.rows, ∀ cell ∈ row, Row.TabFree cell := by
  have hnull : Row.TabFree Row.null := Text.foreign_tab.freeOf_null
  cases h with
  | add =>
      refine ⟨Row.Avoids.append hheader (Row.avoids_singleton hcolumn), fun after hafter => ?_⟩
      obtain ⟨_, hmem, rfl⟩ := List.mem_map.mp hafter
      obtain ⟨row, hrow, rfl⟩ := List.mem_map.mp hmem
      exact (Row.Avoids.append (hrows row hrow) (Row.avoids_singleton hnull)).pad
        Text.foreign_tab _
  | @drop place =>
      refine ⟨Row.Avoids.eraseIdx hheader place, fun after hafter => ?_⟩
      obtain ⟨_, hmem, rfl⟩ := List.mem_map.mp hafter
      obtain ⟨row, hrow, rfl⟩ := List.mem_map.mp hmem
      exact (Row.Avoids.eraseIdx (hrows row hrow) place).pad Text.foreign_tab _

/-- As long as there is a column, the altered table is read again from its lines, but for
rows of one empty cell. -/
theorem Alters.ofLines?_toLines (h : t.Alters column change changed)
    (hcolumn : Row.TabFree column) (hheader : ∀ heading ∈ t.header, Row.TabFree heading)
    (hrows : ∀ row ∈ t.rows, ∀ cell ∈ row, Row.TabFree cell) (hne : changed.header ≠ []) :
    ofLines? changed.toLines = some { changed with rows := changed.rows.filter (· ≠ [""]) } := by
  obtain ⟨hheadings, hcells⟩ := h.tabFree hcolumn hheader hrows
  have hfull : ∀ row ∈ changed.rows, row ≠ [] := by
    refine (forall_mem_iff_of_forall₂ h.isAltered.rows fun row after hrow =>
      iff_of_true trivial ?_).mp fun _ _ => trivial
    exact List.ne_nil_of_length_pos ((List.length_pos_iff.mpr hne).trans_le hrow.width_le)
  rw [ofLines?_toLines_filter hne hheadings hcells]
  refine congrArg (fun rows => some { changed with rows := rows })
    (List.filter_congr fun row hrow => ?_)
  rw [decide_eq_decide]
  exact and_iff_right (hfull row hrow)

/-! ## The other columns -/

/-- The other columns are found where they came to stand. -/
theorem Alters.columnIndex?_eq (h : t.Alters column change changed)
    (hother : sameWord other column = false) :
    changed.columnIndex? other = (t.columnIndex? other).map (t.placeAfter column) := by
  cases h with
  | add hnew =>
      have hsame : sameWord column other = false := by rwa [Text.sameWord_comm]
      have hplace : t.placeAfter column = id := funext (placeAfter_of_none hnew)
      rw [hplace, Option.map_id, columnIndex?, padded, Row.columnIndex?, List.findIdx?_append,
        List.findIdx?_singleton, hsame]
      exact Option.or_none
  | @drop removed hremoved =>
      have hplace : t.placeAfter column = Row.placeWithout removed :=
        funext (placeAfter_of_some hremoved)
      rw [hplace]
      refine Row.columnIndex?_eraseIdx fun heading hheading => ?_
      obtain ⟨hlt, hsame, _⟩ := List.findIdx?_eq_some_iff_getElem.mp hremoved
      rw [Option.mem_def, List.getElem?_eq_getElem hlt, Option.some_inj] at hheading
      rw [← hheading, Text.sameWord_congr hsame, Text.sameWord_comm]
      exact hother

/-- Another column stands in another place. -/
theorem columnIndex?_ne_of_not_sameWord {place : Nat} (hother : sameWord other column = false)
    (h : t.columnIndex? other = some place) : t.columnIndex? column ≠ some place := by
  intro hcolumn
  rw [columnIndex?_eq_some_iff hcolumn, Text.sameWord_comm, hother] at h
  cases h

/-- In a row that is as wide as the header the other columns keep what they hold. -/
theorem Alters.under?_eq (h : t.Alters column change changed) {row after : List String}
    (hrow : t.RowAltered change column changed row after) (hwidth : t.width ≤ row.length)
    (hother : sameWord other column = false) :
    Row.under? changed.header after other = Row.under? t.header row other := by
  have hindex := h.columnIndex?_eq hother
  rw [columnIndex?, columnIndex?] at hindex
  rw [Row.under?, Row.under?, hindex]
  cases hplace : Row.columnIndex? t.header other with
  | none => rfl
  | some place =>
      have hlt : place < t.width := lt_width_of_columnIndex? hplace
      have hcell := hrow.kept place hlt (columnIndex?_ne_of_not_sameWord hother hplace)
      rw [Option.map_some, Option.bind_some, Option.bind_some, hcell, Row.cellAt,
        List.getElem?_eq_getElem (hlt.trans_le hwidth)]
      rfl

/-- Cells that are looked up at places of the other columns are found again. -/
theorem project_placeAfter {places : List Nat} {cells after : List String}
    (h : ∀ place ∈ places, Row.cellAt after (t.placeAfter column place) =
      Row.cellAt cells place) :
    Row.project (places.map (t.placeAfter column)) after = Row.project places cells := by
  rw [Row.project, Row.project, List.map_map]
  exact List.map_congr_left h

/-- No query that names other columns only tells the altered table from the table before,
as long as no row is shorter than the header. -/
theorem Alters.select_columns_eq (h : t.Alters column change changed)
    (hrows : ∀ row ∈ t.rows, t.width ≤ row.length) {names : List String}
    {condition : Option Condition} (hnames : ∀ name ∈ names, sameWord name column = false)
    (htests : ∀ tested ∈ condition, ∀ leaf ∈ tested.tests,
      sameWord leaf.column column = false) :
    changed.select (.columns names) condition = t.select (.columns names) condition := by
  have hplaces : changed.places (.columns names) =
      (t.places (.columns names)).map (List.map (t.placeAfter column)) := by
    refine mapM_eq_map_mapM fun name hname => ?_
    rw [h.columnIndex?_eq (hnames name hname)]
    cases t.columnIndex? name with
    | none => rfl
    | some place => rfl
  rw [select, select, hplaces]
  cases hfound : t.places (.columns names) with
  | error fault => rfl
  | ok places =>
      have hothers : ∀ place ∈ places, place < t.width ∧ t.columnIndex? column ≠ some place := by
        intro place hplace
        obtain ⟨name, hname, hanswer⟩ := exists_mem_of_mem_mapM hfound hplace
        split at hanswer
        · next found hindex =>
            cases hanswer
            exact ⟨lt_width_of_columnIndex? hindex,
              columnIndex?_ne_of_not_sameWord (hnames name hname) hindex⟩
        · cases hanswer
      have hheader : Row.project (places.map (t.placeAfter column)) changed.header =
          Row.project places t.header := by
        refine project_placeAfter fun place hplace => ?_
        obtain ⟨hlt, hother⟩ := hothers place hplace
        rw [Row.cellAt, h.isAltered.heading place hlt hother, Row.cellAt]
      have hboth := (List.forall₂_and_left _ _).mpr ⟨hrows, h.isAltered.rows⟩
      have hcells : (changed.rows.filter (changed.matchesRow condition)).map
            (Row.project (places.map (t.placeAfter column))) =
          (t.rows.filter (t.matchesRow condition)).map (Row.project places) := by
        refine (map_filter_eq_of_forall₂ hboth ?_ ?_).symm
        · rintro row after ⟨hwidth, hrow⟩
          cases condition with
          | none => rfl
          | some tested =>
              refine Condition.holds_congr fun leaf hleaf => ?_
              exact (h.under?_eq hrow hwidth (htests tested rfl leaf hleaf)).symm
        · rintro row after ⟨_, hrow⟩
          refine (project_placeAfter fun place hplace => ?_).symm
          obtain ⟨hlt, hother⟩ := hothers place hplace
          rw [Row.cellAt, hrow.kept place hlt hother, Option.getD_some]
      change Except.ok (Table.mk _ _) = Except.ok (Table.mk _ _)
      rw [hheader, hcells]

/-- A column that is not there is not the key. -/
theorem WellFormed.not_key_of_columnIndex? (h : t.WellFormed)
    (hnew : t.columnIndex? column = none) : sameWord column keyColumn = false := by
  obtain ⟨columns, hheader, _⟩ := h.header
  have hkey : keyColumn ∈ t.header := by
    rw [hheader]
    exact List.mem_cons_self
  rw [Text.sameWord_comm]
  exact List.findIdx?_eq_none_iff.mp hnew keyColumn hkey

/-- A column that is added to a well-formed table can be taken out again, under its name in
any case, and leaves the table as it was. -/
theorem WellFormed.alter_add_drop (h : t.WellFormed) (hnew : t.columnIndex? column = none)
    (hsame : sameWord column other = true) :
    ∃ added, t.alter .add column = .ok added ∧ added.alter .drop other = .ok t := by
  have hkey := h.not_key_of_columnIndex? hnew
  have hkey' : sameWord other keyColumn = false := by
    rw [← Text.sameWord_congr hsame]
    exact hkey
  have hrows : ∀ row ∈ t.rows.map (· ++ [Row.null]),
      row.length = (t.header ++ [column]).length := by
    intro after hafter
    obtain ⟨row, hrow, rfl⟩ := List.mem_map.mp hafter
    rw [List.length_append, List.length_append, h.row_length row hrow]
    rfl
  have hadded : padded ⟨t.header ++ [column], t.rows.map (· ++ [Row.null])⟩ =
      ⟨t.header ++ [column], t.rows.map (· ++ [Row.null])⟩ := padded_eq_self hrows
  have hself : columnIndex? ⟨t.header ++ [column], t.rows.map (· ++ [Row.null])⟩ column =
      some t.width := columnIndex?_append_self hnew
  have hplace := (columnIndex?_eq_some_iff hself other).mpr hsame
  have hheader : (t.header ++ [column]).eraseIdx t.width = t.header :=
    Row.eraseIdx_append_singleton t.header column
  have hcells : (t.rows.map (· ++ [Row.null])).map (·.eraseIdx t.width) = t.rows := by
    rw [List.map_map]
    refine (List.map_congr_left fun row hrow => ?_).trans (List.map_id _)
    rw [Function.comp_apply, ← h.row_length row hrow]
    exact Row.eraseIdx_append_singleton row Row.null
  refine ⟨_, alter_eq_ok_iff.mpr ⟨hkey, .add hnew⟩, ?_⟩
  rw [hadded]
  have hdropped := Alters.drop hplace
  rw [hheader, hcells, padded_eq_self h.row_length] at hdropped
  exact alter_eq_ok_iff.mpr ⟨hkey', hdropped⟩

end Table

end TextTables
