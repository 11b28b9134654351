import TextTables.Proofs.Table.Assignment
import TextTables.Proofs.Table.Columns

/-!
# Changes that are made twice

An update gives the rows that it reaches values that do not depend on the rows.  So a row
that is reached again is given what it holds already, and it makes no difference whether the
condition looks at what was assigned.  A removal leaves no row that it would take out.
-/

namespace TextTables

namespace Row

/-- Where a value was put, it is found again, also if several were put there. -/
theorem assign_assign (values : List (Nat × String)) (cells : List String) :
    assign values (assign values cells) = assign values cells := by
  apply List.ext_getElem?
  intro place
  rw [getElem?_assign, getElem?_assign, Option.map_map]
  cases values.reverse.find? fun value => value.1 == place with
  | none => rfl
  | some value => rfl

end Row

namespace Table

variable {t changed : Table}

/-- A row that an update reached is left as it is, whether or not it is reached again. -/
theorem update_update {assignments : List (String × String)} {condition : Option Condition}
    (h : t.update assignments condition = .ok changed) :
    changed.update assignments condition = .ok changed := by
  obtain ⟨targets, htargets, h⟩ := exists_of_bind_eq_ok h
  cases h
  have hreached : ∀ row, Row.assign targets (Row.pad t.width
      (Row.assign targets (Row.pad t.width row))) = Row.assign targets (Row.pad t.width row) := by
    intro row
    have hwide : t.width ≤ (Row.assign targets (Row.pad t.width row)).length := by
      rw [Row.length_assign, Row.length_pad]
      exact Nat.le_max_right _ _
    rw [Row.pad_of_le_length hwide, Row.assign_assign]
  -- The places are looked up in the header, which stays.
  rw [update]
  change (t.targets assignments >>= _) = _
  rw [htargets, ok_bind]
  refine congrArg Except.ok (congrArg (Table.mk t.header) ?_)
  rw [List.map_map]
  refine List.map_congr_left fun row _ => ?_
  simp only [Function.comp_apply]
  change (if t.matchesRow condition _ then Row.assign targets (Row.pad t.width _) else _) = _
  by_cases hrow : t.matchesRow condition row = true
  · simp only [hrow, if_true, hreached, ite_self]
  · simp only [hrow, Bool.false_eq_true, if_false]

theorem delete_delete (t : Table) (condition : Option Condition) :
    (t.delete condition).delete condition = t.delete condition := by
  cases condition with
  | none => rfl
  | some condition =>
      refine congrArg (Table.mk t.header) ?_
      simp only [delete, List.filter_filter, Bool.and_self]

end Table

end TextTables
