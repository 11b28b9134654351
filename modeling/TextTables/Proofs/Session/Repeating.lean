import TextTables.Proofs.Session.Altering
import TextTables.Proofs.Table.Repeating

/-!
# Statements that are given twice

An update or a removal that is given again finds the table as it left it, and leaves it so:
it is answered as the first time, and nothing is changed.  The table is followed on the
ledger, where it is the same value before it is written on lines and after it is read again.
-/

namespace TextTables

namespace Statement

/-- Whether a statement changes rows that are there, or takes them out. -/
def isCorrection : Statement → Bool
  | update _ _ _ | delete _ _ => true
  | use _ | createDatabase _ | createTable _ _ | insert _ _ | select _ _ _ | alter _ _ _
  | dropTable _ | dropDatabase _ | join _ _ _ _ => false

/-- A correction is a change of one table that changes nothing the second time. -/
theorem exists_change_of_isCorrection {statement : Statement}
    (h : statement.isCorrection = true) :
    ∃ name f, (∀ l : Ledger, l.step statement = (l.change name f).map fun next => (.done, next)) ∧
      ∀ t changed : Table, f t = .ok changed → f changed = .ok changed := by
  cases statement with
  | update table assignments condition =>
      exact ⟨table, fun t => t.update assignments condition, fun _ => rfl,
        fun _ _ hchanged => Table.update_update hchanged⟩
  | delete table condition =>
      refine ⟨table, fun t => .ok (t.delete condition), fun _ => rfl, fun t changed hchanged => ?_⟩
      cases hchanged
      exact congrArg Except.ok (t.delete_delete condition)
  | _ => cases h

theorem isCorrection_rewritten {statement : Statement} (h : statement.isCorrection = true) :
    statement.isQuery = false ∧ ∃ table, statement.rewritten? = some table := by
  cases statement with
  | update table assignments condition => exact ⟨rfl, table, rfl⟩
  | delete table condition => exact ⟨rfl, table, rfl⟩
  | _ => cases h

end Statement

namespace Ledger

theorem change_again {l next : Ledger} {name : String} {f : Table → Except Fault Table}
    (hf : ∀ t changed : Table, f t = .ok changed → f changed = .ok changed)
    (hnext : l.change name f = .ok next) : next.change name f = .ok next := by
  obtain ⟨database, t, changed, hselected, ht, hchanged, _⟩ := exists_of_change_eq_ok hnext
  obtain ⟨tables, htables, hname⟩ := Option.bind_eq_some_iff.mp ht
  obtain ⟨first, hfirst, hsecond⟩ :=
    change_change_eq_ok hselected htables hname rfl hchanged (hf t changed hchanged)
  cases hfirst.symm.trans hnext
  cases hfirst.symm.trans (change_eq_ok hselected htables hname hchanged)
  exact hsecond

theorem execute_execute {text : String} {statement : Statement}
    (hread : Statement.ofText text = .ok statement) (hcorrection : statement.isCorrection = true)
    (l : Ledger) : (l.execute text).2.execute text = l.execute text := by
  obtain ⟨name, f, hstep, hf⟩ := Statement.exists_change_of_isCorrection hcorrection
  cases hnext : l.change name f with
  | error fault =>
      have hrefused : l.execute text = (.refused fault, l) := by
        rw [execute_of_ofText hread, perform, hstep, hnext]
        rfl
      rw [hrefused, hrefused]
  | ok next =>
      rw [execute_of_change hread (hstep l) hnext,
        execute_of_change hread (hstep next) (change_again hf hnext)]

end Ledger

namespace Session

/-- A correction does nothing but with the store. -/
theorem execute_of_isCorrection {s : Session Catalog} {text : String} {statement : Statement}
    (hread : Statement.ofText text = .ok statement) (hcorrection : statement.isCorrection = true) :
    (s.execute text).2 = { s with store := (s.execute text).2.store } := by
  obtain ⟨hquery, table, htable⟩ := Statement.isCorrection_rewritten hcorrection
  rcases s.execute_cases text with ⟨_, hsame⟩ | ⟨other, hother, _, heffect⟩
  · rw [hsame]
  · cases hread.symm.trans hother
    generalize (s.execute text).2 = next at heffect ⊢
    cases heffect with
    | rewrite => rfl
    | query hquery' => rfl
    | _ => cases hcorrection

/-- **What is given twice is done once.**  In every state that texts lead to, an update or a
removal that is given a second time is answered as the first time and leaves the session,
with all that is stored, as the first one left it.  So it is carried out again exactly if it
was carried out. -/
theorem execute_again (texts : List String) {text : String} {statement : Statement}
    (hread : Statement.ofText text = .ok statement) (hcorrection : statement.isCorrection = true) :
    let s := ((start Catalog.empty).executeAll texts).2
    (s.execute text).2.execute text = s.execute text := by
  intro s
  have hl := Ledger.wellFormed_empty.afterAll texts
  have hs : (Ledger.empty.afterAll texts).ShownBy s :=
    Ledger.wellFormed_empty.shownBy_afterAll Ledger.shownBy_start texts
  obtain ⟨hreply, hshown⟩ := hl.agree_execute hs text
  obtain ⟨hreply', hshown'⟩ := (hl.execute text).agree_execute hshown text
  rw [Ledger.execute_execute hread hcorrection] at hreply' hshown'
  have hstore : ((s.execute text).2.execute text).2.store = (s.execute text).2.store :=
    hshown'.store.trans hshown.store.symm
  refine Prod.ext (hreply'.trans hreply.symm) ?_
  rw [execute_of_isCorrection hread hcorrection, hstore]

/-- An insertion that is given twice is done twice. -/
example :
    let s : Session Catalog := ⟨⟨Dict.empty.insert "d" (Dict.empty.insert "t" ["id\tc"])⟩,
      some "d", .empty⟩
    Store.read (s.executeAll ["INSERT INTO t VALUES (x);", "INSERT INTO t VALUES (x);"]).2.store
      "d" "t" = ["id\tc", "1\tx", "2\tx"] := by
  decide +kernel

/-- An update that assigns to the column that its condition looks at, and to it twice.  The
row that it changed is not found the second time. -/
theorem execute_again_not_found :
    let s := ((start Catalog.empty).executeAll ["CREATE DATABASE d;", "USE d;",
      "CREATE TABLE t(c);", "INSERT INTO t VALUES ('x');", "INSERT INTO t VALUES ('y');"]).2
    let text := "UPDATE t SET c = 'v', C = 'w' WHERE c == 'x';"
    (s.execute text).1 = .done ∧
      Store.read (s.execute text).2.store "d" "t" = ["id\tc", "1\tw", "2\ty"] ∧
      (s.execute text).2.execute text = s.execute text := by
  intro s text
  have hread : Statement.ofText "UPDATE t SET c = 'v', C = 'w' WHERE c == 'x';" =
      .ok (.update "t" [("c", "'v'"), ("C", "'w'")] (some (.test "c" "==" "x"))) := by
    decide +kernel
  have hrun : (s.execute text).1 = .done ∧
      Store.read (s.execute text).2.store "d" "t" = ["id\tc", "1\tw", "2\ty"] := by
    decide +kernel
  have hagain := execute_again ["CREATE DATABASE d;", "USE d;",
    "CREATE TABLE t(c);", "INSERT INTO t VALUES ('x');", "INSERT INTO t VALUES ('y');"] hread rfl
  exact ⟨hrun.1, hrun.2, hagain⟩

end Session

end TextTables
