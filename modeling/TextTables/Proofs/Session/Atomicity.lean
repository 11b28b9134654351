import TextTables.Proofs.Attempt
import TextTables.Session.Execution
import TextTables.Store.Catalog

/-!
# Refused statements leave no trace

An attempt that may stop in the middle keeps what it did before.  The attempts
of this library are arranged so that nothing is done before the last thing that
can fail: all reading and checking comes first, then one operation on the store,
then changes of the session that cannot fail.  This file says so for attempts in
general, and concludes that a refused statement leaves a session over a catalog
exactly as it was, and that a query leaves it alone also when it is answered.
-/

namespace TextTables

/-! ## Operations on stores -/

/-- Every operation on a table that fails leaves the store as it was. -/
class Store.TransactionalTables (σ : Type) [Store σ] : Prop where
  write : ∀ (s : σ) (database table : String) (lines : List String) (fault : Fault),
    (Store.write s database table lines).1 = .error fault →
      (Store.write s database table lines).2 = s
  createTable : ∀ (s : σ) (database table : String) (header : List String) (fault : Fault),
    (Store.createTable s database table header).1 = .error fault →
      (Store.createTable s database table header).2 = s
  dropTable : ∀ (s : σ) (database table : String) (fault : Fault),
    (Store.dropTable s database table).1 = .error fault →
      (Store.dropTable s database table).2 = s

/-- Every operation of a store that fails leaves the store as it was. -/
class Store.Transactional (σ : Type) [Store σ] : Prop where
  write : ∀ (s : σ) (database table : String) (lines : List String) (fault : Fault),
    (Store.write s database table lines).1 = .error fault →
      (Store.write s database table lines).2 = s
  createTable : ∀ (s : σ) (database table : String) (header : List String) (fault : Fault),
    (Store.createTable s database table header).1 = .error fault →
      (Store.createTable s database table header).2 = s
  dropTable : ∀ (s : σ) (database table : String) (fault : Fault),
    (Store.dropTable s database table).1 = .error fault →
      (Store.dropTable s database table).2 = s
  createDatabase : ∀ (s : σ) (database : String) (fault : Fault),
    (Store.createDatabase s database).1 = .error fault →
      (Store.createDatabase s database).2 = s
  dropDatabase : ∀ (s : σ) (database : String) (fault : Fault),
    (Store.dropDatabase s database).1 = .error fault →
      (Store.dropDatabase s database).2 = s

instance {σ : Type} [Store σ] [h : Store.Transactional σ] : Store.TransactionalTables σ where
  write := h.write
  createTable := h.createTable
  dropTable := h.dropTable

namespace Catalog

instance : Store.Transactional Catalog where
  write := by
    intro c database table lines fault h
    simp only [Store.write, Catalog.write] at h ⊢
    split at h
    · rfl
    · split at h
      · cases h
      · next hmissing => rw [if_neg hmissing]
  createTable := by
    intro c database table header fault h
    simp only [Store.createTable, Catalog.createTable] at h ⊢
    split at h
    · rfl
    · split at h
      · next hfound => rw [if_pos hfound]
      · cases h
  dropTable := by
    intro c database table fault h
    simp only [Store.dropTable, Catalog.dropTable] at h ⊢
    split at h
    · rfl
    · split at h
      · cases h
      · next hmissing => rw [if_neg hmissing]
  createDatabase := by
    intro c database fault h
    simp only [Store.createDatabase, Catalog.createDatabase] at h ⊢
    split at h
    · next hfound => rw [if_pos hfound]
    · cases h
  dropDatabase := by
    intro c database fault h
    simp only [Store.dropDatabase, Catalog.dropDatabase] at h ⊢
    split at h
    · cases h
    · next hmissing => rw [if_neg hmissing]

end Catalog

/-! ## Actions in a session -/

namespace Action

open Attempt

variable {σ : Type}

theorem readOnly_current : (current : Action σ String).ReadOnly := by
  refine readOnly_state.bind fun s => ?_
  split
  · exact readOnly_pure _
  · exact readOnly_fail _

/-- The current database is the one that is selected. -/
theorem selected_of_current {s : Session σ} {database : String}
    (h : ((current : Action σ String).run s).1 = .ok database) :
    s.selected = some database := by
  rw [current, run_state_bind] at h
  cases hselected : s.selected with
  | none =>
      rw [hselected] at h
      cases h
  | some selected =>
      rw [hselected] at h
      cases h
      rfl

/-- An operation on the store is atomic in a session if it is atomic itself. -/
theorem atomic_change {operation : σ → Outcome σ}
    (h : ∀ store fault, (operation store).1 = .error fault → (operation store).2 = store) :
    (change operation).Atomic := by
  intro s fault hfault
  have hstore := h s.store fault hfault
  change { s with store := (operation s.store).2 } = s
  rw [hstore]

variable [Store σ]

theorem readOnly_lines (name : String) : (lines name : Action σ (List String)).ReadOnly :=
  readOnly_current.bind fun _ => readOnly_state.bind fun _ => readOnly_pure _

theorem readOnly_table (name : String) : (table name : Action σ Table).ReadOnly :=
  (readOnly_lines name).bind fun _ => readOnly_ofExcept _

theorem readOnly_select (name : String) (columns : Selection)
    (condition : Option Condition) :
    (select name columns condition : Action σ Table).ReadOnly :=
  (readOnly_table name).bind fun _ => readOnly_ofExcept _

theorem readOnly_join (left right leftColumn rightColumn : String) :
    (join left right leftColumn rightColumn : Action σ Table).ReadOnly := by
  refine (readOnly_lines left).bind fun leftLines => ?_
  refine (readOnly_lines right).bind fun rightLines => ?_
  refine (readOnly_ofExcept _).bind fun both => ?_
  exact readOnly_ofExcept _

/-- The tables of the database are listed before anything is selected. -/
theorem atomic_use (database : String) : (use database : Action σ Unit).Atomic := by
  refine readOnly_state.bind_atomic fun s => ?_
  split
  · exact (readOnly_ofExcept _).bind_atomic fun tables =>
      fun _ fault h => absurd h (infallible_modify _ _ fault)
  · exact (readOnly_fail _).atomic

variable [Store.TransactionalTables σ]

theorem atomic_put (name : String) (lines : List String) :
    (put name lines : Action σ Unit).Atomic :=
  readOnly_current.bind_atomic fun database =>
    atomic_change fun store => Store.TransactionalTables.write store database name lines

theorem atomic_createTable (table : String) (columns : List String) :
    (createTable table columns : Action σ Unit).Atomic := by
  refine readOnly_current.bind_atomic fun database => ?_
  refine Atomic.bind_infallible (atomic_change ?_) fun _ => infallible_modify _
  exact fun store => Store.TransactionalTables.createTable store database table _

theorem atomic_dropTable (table : String) :
    (dropTable table : Action σ Unit).Atomic := by
  refine readOnly_current.bind_atomic fun database => ?_
  refine Atomic.bind_infallible (atomic_change ?_) fun _ => infallible_modify _
  exact fun store => Store.TransactionalTables.dropTable store database table

theorem atomic_changeTable (name : String) (f : Table → Except Fault Table) :
    (changeTable name f : Action σ Unit).Atomic := by
  refine (readOnly_table name).bind_atomic fun found => ?_
  exact (readOnly_ofExcept _).bind_atomic fun changed => atomic_put name changed.toLines

theorem atomic_insert (name : String) (values : List String) :
    (insert name values : Action σ Unit).Atomic := by
  refine (readOnly_lines name).bind_atomic fun found => ?_
  exact (readOnly_ofExcept _).bind_atomic fun changed => atomic_put name changed

omit [Store.TransactionalTables σ] in
theorem atomic_dropDatabase [Store.Transactional σ] (database : String) :
    (dropDatabase database : Action σ Unit).Atomic := by
  refine Atomic.bind_infallible (atomic_change ?_) fun _ => infallible_modify _
  exact fun store => Store.Transactional.dropDatabase store database

end Action

/-! ## Statements -/

namespace Statement

open Attempt

/-- Whether a statement only asks for rows. -/
def isQuery : Statement → Bool
  | select _ _ _ | join _ _ _ _ => true
  | use _ | createDatabase _ | createTable _ _ | insert _ _ | update _ _ _ | delete _ _
  | alter _ _ _ | dropTable _ | dropDatabase _ => false

variable {σ : Type} [Store σ]

theorem readOnly_action {statement : Statement} (h : statement.isQuery = true) :
    (action statement : Action σ Reply).ReadOnly := by
  cases statement with
  | select table columns condition =>
      exact (Action.readOnly_select table columns condition).bind fun _ => readOnly_pure _
  | join left right leftColumn rightColumn =>
      exact (Action.readOnly_join left right leftColumn rightColumn).bind
        fun _ => readOnly_pure _
  | _ => cases h

/-- What is carried out is not answered with a refusal. -/
theorem ensures_action (statement : Statement) :
    Ensures (fun _ : Session σ => True) (action statement)
      fun reply _ => reply.isAccepted = true := by
  have hdone : ∀ _ : Unit, Ensures (fun _ : Session σ => True) (pure Reply.done)
      fun reply _ => reply.isAccepted = true :=
    fun _ => ensures_pure fun _ _ => rfl
  have hrows : ∀ found : Table, Ensures (fun _ : Session σ => True) (pure (Reply.rows found))
      fun reply _ => reply.isAccepted = true :=
    fun _ => ensures_pure fun _ _ => rfl
  cases statement with
  | select | join => exact ensures_true.bind hrows
  | _ => exact ensures_true.bind hdone

/-- Whether a statement creates or drops a database. -/
def isOnDatabase : Statement → Bool
  | createDatabase _ | dropDatabase _ => true
  | use _ | createTable _ _ | insert _ _ | select _ _ _ | update _ _ _ | delete _ _
  | alter _ _ _ | dropTable _ | join _ _ _ _ => false

/-- A statement that creates or drops no database fails before it changes anything. -/
theorem atomic_action_of_tables [Store.TransactionalTables σ] {statement : Statement}
    (h : statement.isOnDatabase = false) : (action statement : Action σ Reply).Atomic := by
  have hdone : ∀ _ : Unit, Infallible (pure Reply.done : Action σ Reply) :=
    fun _ => infallible_pure _
  cases statement with
  | use database => exact (Action.atomic_use database).bind_infallible hdone
  | createDatabase | dropDatabase => cases h
  | createTable table columns =>
      exact (Action.atomic_createTable table columns).bind_infallible hdone
  | insert table values => exact (Action.atomic_insert table values).bind_infallible hdone
  | select table columns condition => exact (readOnly_action rfl).atomic
  | update table assignments condition =>
      exact (Action.atomic_changeTable table _).bind_infallible hdone
  | delete table condition =>
      exact (Action.atomic_changeTable table _).bind_infallible hdone
  | alter table change column =>
      exact (Action.atomic_changeTable table _).bind_infallible hdone
  | dropTable table => exact (Action.atomic_dropTable table).bind_infallible hdone
  | join left right leftColumn rightColumn => exact (readOnly_action rfl).atomic

/-- Every statement does its one change last. -/
theorem atomic_action [Store.Transactional σ] (statement : Statement) :
    (action statement : Action σ Reply).Atomic := by
  have hdone : ∀ _ : Unit, Infallible (pure Reply.done : Action σ Reply) :=
    fun _ => infallible_pure _
  cases statement with
  | createDatabase database =>
      refine Atomic.bind_infallible (Action.atomic_change ?_) hdone
      exact fun store => Store.Transactional.createDatabase store database
  | dropDatabase database =>
      exact (Action.atomic_dropDatabase database).bind_infallible hdone
  | _ => exact atomic_action_of_tables rfl

end Statement

namespace Session

variable {σ : Type} [Store σ]

/-- A session does not take back what a statement was answered with. -/
theorem perform_eq_self_of_atomic {s : Session σ} {statement : Statement}
    (hatomic : (Statement.action statement : Action σ Reply).Atomic)
    (h : (s.perform statement).1.isAccepted = false) : (s.perform statement).2 = s := by
  have hatomic := hatomic s
  have haccepted := Statement.ensures_action (σ := σ) statement s trivial
  unfold perform at h ⊢
  split at h
  · next reply after hrun =>
      rw [haccepted reply after hrun] at h
      cases h
  · next fault after hrun =>
      rw [hrun] at hatomic
      have hafter : after = s := hatomic fault rfl
      rw [hafter]

theorem perform_eq_self_of_refused [Store.Transactional σ] {s : Session σ}
    {statement : Statement} (h : (s.perform statement).1.isAccepted = false) :
    (s.perform statement).2 = s :=
  perform_eq_self_of_atomic (Statement.atomic_action statement) h

theorem perform_eq_self_of_isQuery {s : Session σ} {statement : Statement}
    (h : statement.isQuery = true) : (s.perform statement).2 = s := by
  have hread := Statement.readOnly_action (σ := σ) h s
  unfold perform
  split
  · next reply after hrun =>
      rw [hrun] at hread
      exact hread
  · next fault after hrun =>
      rw [hrun] at hread
      have hafter : after = s := hread
      rw [hafter]

/-- A text is a query if the statement that it is read as is one. -/
def IsQueryText (text : String) : Prop :=
  ∃ statement, Statement.ofText text = .ok statement ∧ statement.isQuery = true

theorem execute_eq_self_of_isQueryText {s : Session σ} {text : String}
    (h : IsQueryText text) : (s.execute text).2 = s := by
  obtain ⟨statement, hread, hquery⟩ := h
  unfold execute
  split
  · rfl
  · rw [hread]
    exact perform_eq_self_of_isQuery hquery

theorem execute_eq_self_of_refused [Store.Transactional σ] {s : Session σ}
    {text : String} (h : (s.execute text).1.isAccepted = false) :
    (s.execute text).2 = s := by
  unfold execute at h ⊢
  split at h
  · next hblank => rw [if_pos hblank]
  · next hblank =>
      rw [if_neg hblank]
      split at h
      · rfl
      · next statement hread => exact perform_eq_self_of_refused h

/-- **Refusals and queries leave no trace.**  Whatever a catalog holds and whatever a
session over it has selected and knows, a text that is refused, and a query whether it
is answered or refused, leave the catalog, the selection and the known tables as they
were. -/
theorem execute_unchanged (s : Session Catalog) (text : String)
    (h : (s.execute text).1.isAccepted = false ∨ IsQueryText text) :
    (s.execute text).2 = s := by
  rcases h with hrefused | hquery
  · exact execute_eq_self_of_refused hrefused
  · exact execute_eq_self_of_isQueryText hquery

/-- A session over a table with a row that is too long for the header and one whose first
cell is no number. -/
def ragged : Session Catalog where
  store := ⟨Dict.empty.insert "d" (Dict.empty.insert "t" ["id\tc", "5\tx\ty", "last"])⟩
  selected := some "d"
  known := .empty

/-- No id follows the last row, so a new row is refused. -/
theorem execute_unchanged_ragged :
    (ragged.execute "INSERT INTO t VALUES ('z');").1.isAccepted = false ∧
      (ragged.execute "INSERT INTO t VALUES ('z');").2 = ragged := by
  have hrefused : (ragged.execute "INSERT INTO t VALUES ('z');").1.isAccepted = false := by
    decide +kernel
  exact ⟨hrefused, execute_unchanged ragged _ (Or.inl hrefused)⟩

end Session

end TextTables
