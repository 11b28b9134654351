import TextTables.Proofs.Table.Assignment

/-!
# The rows that meet a condition

A query shows them, a removal takes them out, and an update changes them.  Each of the
three goes through the rows on its own, so it is shown of each which rows it picks.  An
update tests every row before it changes it: what it assigns to a column that the condition
looks at makes no difference.
-/

namespace TextTables.Table

variable {t : Table} {condition : Condition}

/-- The rows that meet a condition. -/
def meeting (t : Table) (condition : Condition) : List (List String) :=
  t.rows.filter fun row => condition.holds t.header row

theorem mem_meeting_iff {row : List String} (hrow : row ∈ t.rows) :
    row ∈ t.meeting condition ↔ condition.holds t.header row = true := by
  rw [meeting, List.mem_filter]
  exact and_iff_right hrow

/-- They are shown in their order, each as often as it is there. -/
theorem meeting_eq_filter_mem (t : Table) (condition : Condition) :
    t.meeting condition = t.rows.filter (· ∈ t.meeting condition) := by
  refine List.filter_congr fun row hrow => ?_
  rw [Bool.eq_iff_iff, decide_eq_true_iff, mem_meeting_iff hrow]

theorem delete_eq_filter_not_mem (t : Table) (condition : Condition) :
    t.delete (some condition) =
      { t with rows := t.rows.filter (· ∉ t.meeting condition) } := by
  have hrows : ∀ row ∈ t.rows,
      (!condition.holds t.header row) = decide (row ∉ t.meeting condition) := by
    intro row hrow
    rw [Bool.eq_iff_iff, decide_eq_true_iff, mem_meeting_iff hrow, Bool.not_eq_true',
      Bool.not_eq_true]
  rw [delete, List.filter_congr hrows]

/-- An update leaves the rows that do not meet its condition as they are, also in a table
whose rows are too short or too long. -/
theorem update_spares {assignments : List (String × String)} {changed : Table}
    (h : t.update assignments (some condition) = .ok changed) :
    changed.header = t.header ∧
      List.Forall₂ (fun row after => condition.holds t.header row = false → after = row)
        t.rows changed.rows := by
  obtain ⟨targets, _, h⟩ := exists_of_bind_eq_ok h
  cases h
  refine ⟨rfl, List.forall₂_map_right_iff.mpr (List.forall₂_same.mpr ?_)⟩
  intro row _ hholds
  exact if_neg (Bool.eq_false_iff.mp hholds)

/-- An update changes each row that meets its condition as one without a condition does. -/
theorem update_some_eq (t : Table) (assignments : List (String × String))
    (condition : Condition) :
    t.update assignments (some condition) =
      (t.update assignments none).map fun all => {
        t with
        rows := List.zipWith (fun row after => if row ∈ t.meeting condition then after else row)
          t.rows all.rows } := by
  unfold update
  cases t.targets assignments with
  | error fault => rfl
  | ok targets =>
      refine congrArg (fun rows => Except.ok (Table.mk t.header rows)) ?_
      simp only [matchesRow, if_true]
      rw [List.zipWith_map_right, List.zipWith_self]
      refine List.map_congr_left fun row hrow => ?_
      exact if_congr (mem_meeting_iff hrow).symm rfl rfl

theorem WellFormed.select_all_eq_meeting (h : t.WellFormed) (condition : Condition) :
    t.select .all (some condition) = .ok ⟨t.header, t.meeting condition⟩ :=
  h.select_all_eq_filter (some condition)

theorem WellFormed.update_eq_ok_meeting (h : t.WellFormed)
    {assignments : List (String × String)} {changed : Table}
    (hchanged : t.update assignments (some condition) = .ok changed) :
    changed = {
      t with
      rows := t.rows.map fun row =>
        if row ∈ t.meeting condition then reassigned assignments t.header row else row } := by
  have hrows : ∀ row ∈ t.rows,
      (if t.matchesRow (some condition) row then reassigned assignments t.header row else row) =
        if row ∈ t.meeting condition then reassigned assignments t.header row else row := by
    intro row hrow
    exact if_congr (mem_meeting_iff hrow).symm rfl rfl
  rw [h.update_eq_ok hchanged, List.map_congr_left hrows]

/-- Every row shown has a cell for each heading, whatever the rows of the table are like. -/
theorem length_of_select_eq_ok {columns : Selection} {condition : Option Condition}
    {found : Table} (h : t.select columns condition = .ok found) :
    ∀ row ∈ found.rows, row.length = found.header.length := by
  obtain ⟨places, _, h⟩ := exists_of_bind_eq_ok h
  cases h
  intro row hrow
  obtain ⟨_, _, rfl⟩ := List.mem_map.mp hrow
  rw [Row.project, Row.project, List.length_map, List.length_map]

end TextTables.Table
