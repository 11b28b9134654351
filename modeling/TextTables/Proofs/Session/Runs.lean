import TextTables.Proofs.Session.Atomicity
import TextTables.Proofs.Statement.Plain

/-!
# Runs of sessions

How the texts of a run follow each other, and what a run that only looks around
changes.
-/

namespace TextTables.Session

variable {σ : Type}

theorem run_current {s : Session σ} {database : String} (hselected : s.selected = some database) :
    (Action.current : Action σ String).run s = (.ok database, s) := by
  rw [Action.current, Attempt.run_state_bind, hselected]
  rfl

variable [Store σ]

/-- The replies to texts given one after another, each with the selection after it. -/
def transcript (s : Session σ) : List String → List (Reply × Option String)
  | [] => []
  | text :: more =>
    let (reply, after) := s.execute text
    (reply, after.selected) :: after.transcript more

theorem executeAll_cons (s : Session σ) (text : String) (more : List String) :
    s.executeAll (text :: more) =
      ((s.execute text).1 :: ((s.execute text).2.executeAll more).1,
        ((s.execute text).2.executeAll more).2) := rfl

theorem executeAll_append (s : Session σ) (texts more : List String) :
    s.executeAll (texts ++ more) =
      ((s.executeAll texts).1 ++ ((s.executeAll texts).2.executeAll more).1,
        ((s.executeAll texts).2.executeAll more).2) := by
  induction texts generalizing s with
  | nil => rfl
  | cons text rest ih =>
      rw [List.cons_append, executeAll_cons, executeAll_cons, ih]
      rfl

/-- What every text of a run keeps, the run keeps. -/
theorem executeAll_induction {P : Session σ → Prop} {texts : List String}
    (h : ∀ text ∈ texts, ∀ s, P s → P (s.execute text).2) {s : Session σ} (hs : P s) :
    P (s.executeAll texts).2 := by
  induction texts generalizing s with
  | nil => exact hs
  | cons text more ih =>
      have hfirst := h text List.mem_cons_self s hs
      exact ih (fun other hother => h other (List.mem_cons_of_mem _ hother)) hfirst

/-- A text that reads as a statement is carried out as that statement. -/
theorem execute_of_ofText {text : String} {statement : Statement}
    (h : Statement.ofText text = .ok statement) (s : Session σ) :
    s.execute text = s.perform statement := by
  rw [execute, if_neg (Bool.eq_false_iff.mp (Statement.allBlank_eq_false_of_ofText h)), h]

/-! ## Tables of the selected database -/

section

variable {s : Session σ} {database : String}

/-- The lines that are read are those of the selected database. -/
theorem run_lines (hselected : s.selected = some database) (name : String) :
    (Action.lines name).run s = (.ok (Store.read s.store database name), s) := by
  rw [Action.lines, Attempt.run_bind, run_current hselected]
  rfl

theorem run_table (hselected : s.selected = some database) {name : String} {t : Table}
    (ht : Table.ofLines? (Store.read s.store database name) = some t) :
    (Action.table name).run s = (.ok t, s) := by
  rw [Action.table, Attempt.run_bind, run_lines hselected]
  simp only [Attempt.run_ofExcept, Action.tableOf, ht]

end

/-! ## Looking around -/

/-- A text that selects a database or asks for rows. -/
def IsLook (text : String) : Prop :=
  ∃ statement, Statement.ofText text = .ok statement ∧
    (statement.isQuery = true ∨ ∃ database, statement = .use database)

theorem store_perform_use (s : Session σ) (database : String) :
    (s.perform (.use database)).2.store = s.store := by
  have hkept : (Statement.action (.use database) : Action σ Reply).Preserves
      fun after => after.store = s.store := by
    have huse : (Action.use database : Action σ Unit).Preserves
        fun after => after.store = s.store := by
      refine Attempt.readOnly_state.preserves.bind fun seen => ?_
      split
      · refine (Attempt.readOnly_ofExcept _).preserves.bind fun tables => ?_
        exact Attempt.preserves_modify fun after hafter => hafter
      · exact (Attempt.readOnly_fail _).preserves
    exact huse.bind fun _ => (Attempt.readOnly_pure _).preserves
  have hstore := hkept s rfl
  unfold perform
  split
  · next reply after hrun =>
      rw [hrun] at hstore
      exact hstore
  · next fault after hrun =>
      rw [hrun] at hstore
      exact hstore

theorem store_execute_of_isLook {text : String} (h : IsLook text) (s : Session σ) :
    (s.execute text).2.store = s.store := by
  obtain ⟨statement, hread, hquery | ⟨database, rfl⟩⟩ := h
  · rw [execute_of_ofText hread, perform_eq_self_of_isQuery hquery]
  · rw [execute_of_ofText hread, store_perform_use]

theorem store_executeAll_of_isLook {texts : List String} (h : ∀ text ∈ texts, IsLook text)
    (s : Session σ) : (s.executeAll texts).2.store = s.store := by
  refine executeAll_induction (P := fun t => t.store = s.store) ?_ rfl
  intro text htext t ht
  exact (store_execute_of_isLook (h text htext) t).trans ht

end TextTables.Session
