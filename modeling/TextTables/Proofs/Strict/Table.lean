import TextTables.Proofs.Strict.Token
import TextTables.Proofs.Table.Change
import TextTables.Proofs.Table.Joining

/-!
# Queries and changes with strict accesses

The place of a column is found in the header and then used in the header and in rows of any
length.  In a row it is used only as far as the row goes, or after the row was filled up.
-/

namespace TextTables.Strict

open Table (keyColumn)
open Text (sameWord)

/-! ## New rows -/

/-- The header that the first values of a table without one make. -/
def headerOf (values : List String) : Answer (List String) :=
  go [keyColumn] values
where
  /-- Adds names to a header.  The names already taken are those behind its first. -/
  go (header : List String) : List String → Answer (List String)
    | [] => return header
    | value :: rest => do
      let name ← stripQuotes value
      if sameWord name keyColumn then go header rest
      else do
        let taken ← slice? header 1 header.length
        if taken.contains name then throw (.headingTwice name)
        else go (header ++ [name]) rest

/-- Adds a row of values. -/
def insert (t : Table) (values : List String) : Answer Table :=
  let expected := t.width - 1
  if values.length != expected then throw (.valueCount expected values.length)
  else
    match t.nextId? with
    | none => throw .unusableId
    | some id => do
      let cells ← (values.mapM stripQuotes : Option (List String))
      return { t with rows := t.rows ++ [Whole.toText id :: cells] }

theorem run_headerOf_go (taken values : List String) :
    (headerOf.go (keyColumn :: taken.reverse) values).run =
      some (Table.headerOf.go taken (values.map Token.stripQuotes)) := by
  induction values generalizing taken with
  | nil => rfl
  | cons value rest ih =>
      have hslice : slice? (keyColumn :: taken.reverse) 1 (keyColumn :: taken.reverse).length =
          some taken.reverse := by
        have h := slice?_of_append [keyColumn] taken.reverse []
        rwa [List.append_nil] at h
      rw [headerOf.go, stripQuotes_eq_some, run_liftM_bind, List.map_cons, Table.headerOf.go]
      split
      · exact ih taken
      · rw [hslice, run_liftM_bind, List.contains_reverse]
        split
        · rfl
        · have hnext := ih (Token.stripQuotes value :: taken)
          rwa [List.reverse_cons] at hnext

theorem run_headerOf (values : List String) :
    (headerOf values).run = some (Table.headerOf values) :=
  run_headerOf_go [] values

theorem run_insert (t : Table) (values : List String) :
    (insert t values).run = some (t.insert values) := by
  rw [insert, Table.insert]
  split
  · rfl
  · cases t.nextId? with
    | none => rfl
    | some id =>
        rw [mapM_eq_some_map fun value _ => stripQuotes_eq_some value, run_liftM_bind]
        rfl

/-! ## Columns -/

/-- The headings at several places. -/
def headings (header : List String) (places : List Nat) : Option (List String) :=
  places.mapM (header[·]?)

theorem headings_eq_some {header : List String} {places : List Nat}
    (h : ∀ place ∈ places, place < header.length) :
    headings header places = some (Row.project places header) := by
  refine mapM_eq_some_map fun place hplace => ?_
  rw [Row.cellAt, List.getElem?_eq_getElem (h place hplace), Option.getD_some]

theorem lt_width_of_mem_places {t : Table} {columns : Selection} {places : List Nat}
    (h : t.places columns = .ok places) : ∀ place ∈ places, place < t.width := by
  intro place hplace
  cases columns with
  | all =>
      cases h
      exact List.mem_range.mp hplace
  | columns names =>
      obtain ⟨name, _, hanswer⟩ := exists_mem_of_mem_mapM h hplace
      split at hanswer
      · next found hfound =>
          cases hanswer
          exact Table.lt_width_of_columnIndex? hfound
      · cases hanswer

/-- The columns and rows that a query asks for. -/
def select (t : Table) (columns : Selection) (condition : Option Condition) : Answer Table := do
  let places ← t.places columns
  let header ← headings t.header places
  return { header, rows := (t.rows.filter (t.matchesRow condition)).map (Row.project places) }

theorem run_select (t : Table) (columns : Selection) (condition : Option Condition) :
    (select t columns condition).run = some (t.select columns condition) := by
  refine run_bind_eq_some rfl fun places hplaces => ?_
  rw [headings_eq_some (lt_width_of_mem_places hplaces), run_liftM_bind]
  rfl

/-- The headings of some columns of a joined table. -/
def qualified (t : Table) (name : String) (places : List Nat) : Option (List String) := do
  return (← headings t.header places).map fun heading => name ++ "." ++ heading

/-- Pairs the rows of two tables that agree in a column of each. -/
def join (left right : Table) (leftName rightName leftColumn rightColumn : String) :
    Answer Table :=
  match left.columnIndex? leftColumn, right.columnIndex? rightColumn with
  | some leftKey, some rightKey => do
    let leftHeader ← qualified left leftName (left.leftPlaces leftKey)
    let rightHeader ← qualified right rightName (right.rightPlaces rightKey)
    return {
      header := keyColumn :: leftHeader ++ rightHeader
      rows := left.joinedRows right leftKey rightKey }
  | _, _ => throw .joinColumnMissing

theorem qualified_eq_some {t : Table} {places : List Nat} (h : ∀ place ∈ places, place < t.width)
    (name : String) : qualified t name places = some (t.qualified name places) := by
  rw [qualified, headings_eq_some h]
  rfl

theorem run_join (left right : Table) (leftName rightName leftColumn rightColumn : String) :
    (join left right leftName rightName leftColumn rightColumn).run =
      some (left.join right leftName rightName leftColumn rightColumn) := by
  have hplaces : ∀ (t : Table) (p : Nat → Bool), ∀ place ∈ (List.range t.width).filter p,
      place < t.width :=
    fun t p place hplace => List.mem_range.mp (List.mem_filter.mp hplace).1
  unfold join
  split
  · next leftKey rightKey hleft hright =>
      have hleftHeader : qualified left leftName (left.leftPlaces leftKey) =
          some (left.qualified leftName (left.leftPlaces leftKey)) :=
        qualified_eq_some (hplaces left _) leftName
      have hrightHeader : qualified right rightName (right.rightPlaces rightKey) =
          some (right.qualified rightName (right.rightPlaces rightKey)) :=
        qualified_eq_some (hplaces right _) rightName
      rw [Table.join_eq_ok leftName rightName hleft hright, hleftHeader, run_liftM_bind,
        hrightHeader, run_liftM_bind]
      rfl
  · next hmissing =>
      unfold Table.join
      split
      · next leftKey rightKey hleft hright => exact absurd hright (hmissing _ _ hleft)
      · rfl

/-! ## Changes -/

/-- Puts values at places, one after another. -/
def assign (values : List (Nat × String)) (cells : List String) : Option (List String) :=
  values.foldlM (fun cells (place, value) => set? cells place value) cells

theorem assign_eq_some {values : List (Nat × String)} {cells : List String}
    (h : ∀ value ∈ values, value.1 < cells.length) :
    assign values cells = some (Row.assign values cells) := by
  induction values generalizing cells with
  | nil => rfl
  | cons first rest ih =>
      obtain ⟨hfirst, hrest⟩ := List.forall_mem_cons.mp h
      obtain ⟨place, value⟩ := first
      rw [assign, List.foldlM_cons]
      simp only [set?_eq_some hfirst, Option.bind_eq_bind, Option.bind_some]
      refine ih fun value hvalue => ?_
      rw [List.length_set]
      exact hrest value hvalue

/-- A value is not put behind the end of a row. -/
example : assign [(1, "v")] ["last"] = none := by decide

/-- The places that assignments name, with the values assigned. -/
def targets (t : Table) (assignments : List (String × String)) : Answer (List (Nat × String)) :=
  assignments.mapM fun (column, value) =>
    match t.columnIndex? column with
    | some place => return (place, ← stripQuotes value)
    | none => throw .assignedColumnMissing

theorem run_targets (t : Table) (assignments : List (String × String)) :
    (targets t assignments).run = some (t.targets assignments) := by
  refine run_mapM_eq_some fun assignment _ => ?_
  obtain ⟨column, value⟩ := assignment
  simp only [stripQuotes_eq_some]
  cases t.columnIndex? column with
  | some place => rfl
  | none => rfl

theorem lt_width_of_mem_targets {t : Table} {assignments : List (String × String)}
    {found : List (Nat × String)} (h : t.targets assignments = .ok found) :
    ∀ target ∈ found, target.1 < t.width := by
  intro target htarget
  obtain ⟨⟨column, value⟩, _, hanswer⟩ := exists_mem_of_mem_mapM h htarget
  simp only at hanswer
  split at hanswer
  · next place hplace =>
      cases hanswer
      exact Table.lt_width_of_columnIndex? hplace
  · cases hanswer

/-- Assigns values in the rows that a condition asks for. -/
def update (t : Table) (assignments : List (String × String)) (condition : Option Condition) :
    Answer Table := do
  let found ← targets t assignments
  let rows ← (t.rows.mapM fun row =>
    if t.matchesRow condition row then assign found (Row.pad t.width row) else some row :
      Option (List (List String)))
  return { t with rows }

/-- A row of any length is filled up before values are put in it. -/
theorem run_update (t : Table) (assignments : List (String × String))
    (condition : Option Condition) :
    (update t assignments condition).run = some (t.update assignments condition) := by
  refine run_bind_eq_some (run_targets t assignments) fun found hfound => ?_
  have hrow : ∀ row ∈ t.rows,
      (if t.matchesRow condition row then assign found (Row.pad t.width row) else some row) =
        some (if t.matchesRow condition row then Row.assign found (Row.pad t.width row)
          else row) := by
    intro row _
    split
    · refine assign_eq_some fun target htarget => ?_
      have hwidth := lt_width_of_mem_targets hfound target htarget
      rw [Row.pad, List.length_append, List.length_replicate]
      omega
    · rfl
  rw [mapM_eq_some_map hrow, run_liftM_bind]
  rfl

/-- Adds a column at the end, or takes a column out. -/
def alter (t : Table) (change : Alteration) (column : String) : Answer Table :=
  if sameWord column keyColumn then throw .keyAltered
  else
    match change, t.columnIndex? column with
    | .add, some _ => throw (.columnExists column)
    | .add, none =>
      return Table.padded {
        header := t.header ++ [column]
        rows := t.rows.map (· ++ [Row.null]) }
    | .drop, none => throw (.columnMissing column)
    | .drop, some place => do
      let header ← remove? t.header place
      let rows ← (t.rows.mapM fun row =>
        if place < row.length then remove? row place else some row :
          Option (List (List String)))
      return Table.padded { header, rows }

/-- Nothing is taken out of a row that does not reach the column. -/
theorem run_alter (t : Table) (change : Alteration) (column : String) :
    (alter t change column).run = some (t.alter change column) := by
  unfold alter Table.alter
  split
  · rfl
  · cases change with
    | add => cases t.columnIndex? column <;> rfl
    | drop =>
        cases hplace : t.columnIndex? column with
        | none => rfl
        | some place =>
            have hrow : ∀ row ∈ t.rows, (if place < row.length then remove? row place
                else some row) = some (row.eraseIdx place) := by
              intro row _
              split
              · next hthere => exact remove?_eq_some hthere
              · next hshort => rw [List.eraseIdx_of_length_le (Nat.le_of_not_lt hshort)]
            simp only [remove?_eq_some (Table.lt_width_of_columnIndex? hplace),
              mapM_eq_some_map hrow, run_liftM_bind]
            rfl

end TextTables.Strict
