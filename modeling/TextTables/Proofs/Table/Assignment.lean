import TextTables.Proofs.Table.Change
import TextTables.Proofs.Text.Words

/-!
# What assignments leave in a row

Assignments are carried out one after another on one row.  So a column holds in the end
what the last assignment gives that names it, in any case of its letters, and a column that
none of them names holds what it held.
-/

namespace TextTables

open Text (sameWord)

namespace Row

theorem assign_concat (values : List (Nat × String)) (value : Nat × String)
    (cells : List String) :
    assign (values ++ [value]) cells = (assign values cells).set value.1 value.2 := by
  simp [assign]

/-- A place that a row has holds what was put there last. -/
theorem getElem?_assign (values : List (Nat × String)) (cells : List String) (place : Nat) :
    (assign values cells)[place]? = cells[place]?.map fun cell =>
      ((values.reverse.find? fun value => value.1 == place).map Prod.snd).getD cell := by
  induction values using List.reverseRecOn with
  | nil => simp [assign]
  | append_singleton before value ih =>
      rw [assign_concat, List.getElem?_set, length_assign, List.reverse_concat, List.find?_cons]
      by_cases hplace : value.1 = place
      · by_cases hlt : place < cells.length
        · simp [hplace, hlt]
        · simp [hplace, hlt]
      · have hother : (value.1 == place) = false := beq_false_of_ne hplace
        simp only [hplace, if_false, hother, ih]

end Row

namespace Table

variable {t : Table} {column : String} {place : Nat}

/-- What assignments give a column last. -/
def lastGiven? (assignments : List (String × String)) (column : String) : Option String :=
  (assignments.reverse.find? fun assignment => sameWord column assignment.1).map
    fun assignment => Token.stripQuotes assignment.2

/-- Where a column stands, that column stands in any case of its letters, and no other. -/
theorem columnIndex?_eq_some_iff (h : t.columnIndex? column = some place) (other : String) :
    t.columnIndex? other = some place ↔ sameWord column other = true := by
  constructor
  · intro hother
    obtain ⟨_, hcolumn, _⟩ := List.findIdx?_eq_some_iff_getElem.mp h
    obtain ⟨_, hsame, _⟩ := List.findIdx?_eq_some_iff_getElem.mp hother
    rwa [Text.sameWord_congr hcolumn] at hsame
  · intro hsame
    have hlook : ∀ heading, sameWord heading other = sameWord heading column := by
      intro heading
      rw [Text.sameWord_comm, ← Text.sameWord_congr hsame, Text.sameWord_comm]
    rw [← h, columnIndex?, columnIndex?, Row.columnIndex?, Row.columnIndex?, funext hlook]

theorem targets_concat_eq_ok {assignments : List (String × String)}
    {assignment : String × String} {targets : List (Nat × String)}
    (h : t.targets (assignments ++ [assignment]) = .ok targets) :
    ∃ before place, t.targets assignments = .ok before ∧
      t.columnIndex? assignment.1 = some place ∧
      targets = before ++ [(place, Token.stripQuotes assignment.2)] := by
  rw [Table.targets, List.mapM_append] at h
  obtain ⟨before, hbefore, h⟩ := exists_of_bind_eq_ok h
  obtain ⟨last, hlast, h⟩ := exists_of_bind_eq_ok h
  cases h
  rw [List.mapM_cons] at hlast
  obtain ⟨target, htarget, hlast⟩ := exists_of_bind_eq_ok hlast
  rw [List.mapM_nil] at hlast
  cases hlast
  simp only at htarget
  split at htarget
  · next place hplace =>
      cases htarget
      exact ⟨before, place, hbefore, hplace, rfl⟩
  · cases htarget

/-- The last target at the place of a column is the last value given to the column. -/
theorem find?_targets {assignments : List (String × String)} {targets : List (Nat × String)}
    (h : t.targets assignments = .ok targets) (hplace : t.columnIndex? column = some place) :
    (targets.reverse.find? fun target => target.1 == place).map Prod.snd =
      lastGiven? assignments column := by
  induction assignments using List.reverseRecOn generalizing targets with
  | nil =>
      cases h
      rfl
  | append_singleton before assignment ih =>
      obtain ⟨targets, other, hbefore, hother, rfl⟩ := targets_concat_eq_ok h
      have hmore := ih hbefore
      have hsame : (other == place) = sameWord column assignment.1 := by
        rw [Bool.eq_iff_iff, beq_iff_eq, ← columnIndex?_eq_some_iff hplace, hother,
          Option.some_inj]
      rw [lastGiven?, List.reverse_concat, List.reverse_concat, List.find?_cons,
        List.find?_cons, hsame]
      cases sameWord column assignment.1 with
      | true => rfl
      | false => exact hmore

/-- What a column holds after the assignments of an update. -/
theorem getElem?_assign_targets {assignments : List (String × String)}
    {targets : List (Nat × String)} (h : t.targets assignments = .ok targets)
    (hplace : t.columnIndex? column = some place) (cells : List String) :
    (Row.assign targets cells)[place]? =
      cells[place]?.map fun cell => (lastGiven? assignments column).getD cell := by
  rw [Row.getElem?_assign, find?_targets h hplace]

/-! ## Rows of a well-formed table -/

/-- Every heading is found where it stands. -/
theorem WellFormed.columnIndex?_getElem (h : t.WellFormed) (hplace : place < t.header.length) :
    t.columnIndex? t.header[place] = some place := by
  obtain ⟨columns, hheader, hcolumns⟩ := h.header
  have hdistinct : t.header.Pairwise fun a b => sameWord a b = false := by
    rw [hheader]
    exact hcolumns.2
  refine (columnIndex?_getElem_iff hplace).mpr fun other hother => ?_
  exact List.pairwise_iff_getElem.mp hdistinct other place (hother.trans hplace) hplace hother

/-- A row in which each column that assignments name holds what they give it last. -/
def reassigned (assignments : List (String × String)) (header row : List String) :
    List String :=
  List.zipWith (fun heading cell => (lastGiven? assignments heading).getD cell) header row

theorem WellFormed.assign_targets (h : t.WellFormed) {assignments : List (String × String)}
    {targets : List (Nat × String)} (htargets : t.targets assignments = .ok targets)
    {row : List String} (hrow : row ∈ t.rows) :
    Row.assign targets (Row.pad t.width row) = reassigned assignments t.header row := by
  have hlength : row.length = t.header.length := h.row_length row hrow
  rw [Row.pad_of_length_eq (h.row_length row hrow), reassigned]
  apply List.ext_getElem?
  intro place
  by_cases hplace : place < t.header.length
  · have hcell : place < row.length := hlength ▸ hplace
    rw [getElem?_assign_targets htargets (h.columnIndex?_getElem hplace),
      List.getElem?_zipWith, List.getElem?_eq_getElem hplace, List.getElem?_eq_getElem hcell]
    rfl
  · rw [List.getElem?_eq_none (by rw [Row.length_assign]; omega),
      List.getElem?_eq_none (by rw [List.length_zipWith]; omega)]

/-- What an update makes of the rows. -/
theorem WellFormed.update_eq_ok (h : t.WellFormed) {assignments : List (String × String)}
    {condition : Option Condition} {changed : Table}
    (hchanged : t.update assignments condition = .ok changed) :
    changed = {
      t with
      rows := t.rows.map fun row =>
        if t.matchesRow condition row then reassigned assignments t.header row else row } := by
  obtain ⟨targets, htargets, hchanged⟩ := exists_of_bind_eq_ok hchanged
  cases hchanged
  have hrows : ∀ row ∈ t.rows,
      (if t.matchesRow condition row then Row.assign targets (Row.pad t.width row) else row) =
        if t.matchesRow condition row then reassigned assignments t.header row else row := by
    intro row hrow
    rw [h.assign_targets htargets hrow]
  rw [List.map_congr_left hrows]

/-- Assignments to other columns leave the key alone. -/
theorem WellFormed.head?_reassigned (h : t.WellFormed) {assignments : List (String × String)}
    (hassignments : ∀ assignment ∈ assignments, sameWord assignment.1 keyColumn = false)
    (row : List String) (hrow : row ∈ t.rows) :
    (reassigned assignments t.header row).head? = row.head? := by
  have hkey : lastGiven? assignments keyColumn = none := by
    rw [lastGiven?, Option.map_eq_none_iff, List.find?_eq_none]
    intro assignment hmem
    rw [Text.sameWord_comm, hassignments assignment (List.mem_reverse.mp hmem)]
    exact Bool.false_ne_true
  obtain ⟨columns, hheader, _⟩ := h.header
  obtain ⟨id, _, hhead⟩ := h.exists_head? hrow
  obtain ⟨more, rfl⟩ := List.head?_eq_some_iff.mp hhead
  rw [reassigned, hheader, List.zipWith_cons_cons, hkey]
  rfl

end Table

end TextTables
