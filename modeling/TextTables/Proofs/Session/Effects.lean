import TextTables.Proofs.Session.Runs

/-!
# What statements do to a session

A statement that is carried out does one of a few things: it selects a database, does one
operation on the store and remembers what follows from it, or nothing.  This is said once
for every store, so whatever is to hold of a session has to be looked at for each of these
only.
-/

namespace TextTables

/-- The table whose lines a statement replaces. -/
def Statement.rewritten? : Statement → Option String
  | .insert table _ | .update table _ _ | .delete table _ | .alter table _ _ => some table
  | .use _ | .createDatabase _ | .createTable _ _ | .select _ _ _ | .dropTable _
  | .dropDatabase _ | .join _ _ _ _ => none

variable {σ : Type}

/-- From one session to the next, a table of the selected database was read, and the lines
of another one were written in its place. -/
def Session.Rewrites [Store σ] (s next : Session σ) (name : String) (t changed : Table) : Prop :=
  ∃ database store, s.selected = some database ∧
    Table.ofLines? (Store.read s.store database name) = some t ∧
    Store.write s.store database name changed.toLines = (.ok (), store) ∧
    next = { s with store := store }

namespace Action

/-! ## Actions that succeed -/

theorem exists_of_run_change {operation : σ → Outcome σ} {s t : Session σ}
    (h : (change operation).run s = (.ok (), t)) :
    ∃ store, operation s.store = (.ok (), store) ∧ t = { s with store := store } := by
  cases houtcome : operation s.store with
  | mk result store =>
      change ((operation s.store).1, { s with store := (operation s.store).2 }) = _ at h
      rw [houtcome] at h
      cases h
      exact ⟨store, rfl, rfl⟩

/-- An operation of the store and then a change of what is remembered. -/
theorem exists_of_run_change_modify {operation : σ → Outcome σ} {g : Session σ → Session σ}
    {s t : Session σ} (h : (change operation >>= fun _ => Attempt.modify g).run s = (.ok (), t)) :
    ∃ store, operation s.store = (.ok (), store) ∧ t = g { s with store := store } := by
  obtain ⟨_, reached, hchange, hmodify⟩ := Attempt.run_bind_eq_ok.mp h
  obtain ⟨store, hstore, rfl⟩ := exists_of_run_change hchange
  cases hmodify
  exact ⟨store, hstore, rfl⟩

variable [Store σ]

theorem exists_of_run_use {database : String} {s t : Session σ}
    (h : (use database).run s = (.ok (), t)) :
    Store.databaseExists s.store database = true ∧
      ∃ tables, Store.tables s.store database = .ok tables ∧
        t = ⟨s.store, some database, s.known.insert (storedName database) tables⟩ := by
  rw [use, Attempt.run_state_bind] at h
  split at h
  · next hexists =>
      obtain ⟨tables, reached, htables, hmodify⟩ := Attempt.run_bind_eq_ok.mp h
      rw [Attempt.run_ofExcept] at htables
      cases hmodify
      obtain ⟨hlisted, rfl⟩ := Prod.mk.inj htables
      exact ⟨hexists, tables, hlisted, rfl⟩
  · cases h

theorem exists_of_run_put {name : String} {lines : List String} {s t : Session σ}
    (h : (put name lines).run s = (.ok (), t)) :
    ∃ database store, s.selected = some database ∧
      Store.write s.store database name lines = (.ok (), store) ∧
      t = { s with store := store } := by
  obtain ⟨database, hcurrent, hchange⟩ := readOnly_current.exists_of_run_bind_eq_ok h
  obtain ⟨store, hstore, rfl⟩ := exists_of_run_change hchange
  exact ⟨database, store, selected_of_current (congrArg Prod.fst hcurrent), hstore, rfl⟩

theorem exists_of_run_table {name : String} {s reached : Session σ} {t : Table}
    (h : (table name).run s = (.ok t, reached)) :
    ∃ database, s.selected = some database ∧
      Table.ofLines? (Store.read s.store database name) = some t := by
  obtain ⟨lines, hlines, htable⟩ := (readOnly_lines name).exists_of_run_bind_eq_ok h
  obtain ⟨database, hcurrent, hread⟩ := readOnly_current.exists_of_run_bind_eq_ok hlines
  cases hread
  refine ⟨database, selected_of_current (congrArg Prod.fst hcurrent), ?_⟩
  have hof : tableOf name (Store.read s.store database name) = .ok t := congrArg Prod.fst htable
  unfold tableOf at hof
  split at hof
  · next found hfound =>
      cases hof
      exact hfound
  · cases hof

theorem exists_rewrites_of_run_changeTable {name : String} {f : Table → Except Fault Table}
    {s next : Session σ} (h : (changeTable name f).run s = (.ok (), next)) :
    ∃ t changed, f t = .ok changed ∧ s.Rewrites next name t changed := by
  obtain ⟨t, htable, h⟩ := (readOnly_table name).exists_of_run_bind_eq_ok h
  obtain ⟨changed, hchanged, hput⟩ := (Attempt.readOnly_ofExcept _).exists_of_run_bind_eq_ok h
  obtain ⟨database, hselected, hread⟩ := exists_of_run_table htable
  obtain ⟨other, store, hcurrent, hwrite, hnext⟩ := exists_of_run_put hput
  cases hselected.symm.trans hcurrent
  exact ⟨t, changed, congrArg Prod.fst hchanged, database, store, hselected, hread, hwrite, hnext⟩

theorem exists_of_run_insert {name : String} {values : List String} {s t : Session σ}
    (h : (insert name values).run s = (.ok (), t)) :
    ∃ database lines store, s.selected = some database ∧
      linesAfterInsert (Store.read s.store database name) values = .ok lines ∧
      Store.write s.store database name lines = (.ok (), store) ∧
      t = { s with store := store } := by
  obtain ⟨found, hfound, h⟩ := (readOnly_lines name).exists_of_run_bind_eq_ok h
  obtain ⟨lines, hlines, h⟩ := (Attempt.readOnly_ofExcept _).exists_of_run_bind_eq_ok h
  obtain ⟨database, hcurrent, hread⟩ := readOnly_current.exists_of_run_bind_eq_ok hfound
  obtain ⟨other, store, hselected, hwrite, ht⟩ := exists_of_run_put h
  cases hread
  cases (selected_of_current (congrArg Prod.fst hcurrent)).symm.trans hselected
  exact ⟨database, lines, store, hselected, congrArg Prod.fst hlines, hwrite, ht⟩

end Action

namespace Session

/-! ## Effects -/

theorem store_dropKnown (s : Session σ) (database table : String) :
    (s.dropKnown database table).store = s.store := by
  unfold dropKnown
  split
  · rfl
  · rfl

theorem selected_dropKnown (s : Session σ) (database table : String) :
    (s.dropKnown database table).selected = s.selected := by
  unfold dropKnown
  split
  · rfl
  · rfl

/-- The selection stays unless it is the database that is forgotten. -/
theorem dropDatabase_eq (s : Session σ) (database : String) :
    s.dropDatabase database =
      ⟨s.store, s.selected.filter fun current => !Text.sameWord current database,
        s.known.erase (storedName database)⟩ := by
  unfold dropDatabase
  cases hselected : s.selected with
  | none => simp only [Option.filter_none]
  | some current =>
      simp only [Option.filter_some]
      by_cases hsame : Text.sameWord current database = true
      · simp only [hsame, if_true, Bool.not_true, Bool.false_eq_true, if_false]
      · simp only [hsame, Bool.false_eq_true, if_false, Bool.not_false, if_true]

/-- What is replied after an action that succeeds is what the action left. -/
theorem exists_of_run_reply {α : Type} {action : Action σ α} {f : α → Reply} {s t : Session σ}
    {reply : Reply} (h : (action >>= fun a => pure (f a)).run s = (.ok reply, t)) :
    ∃ a, action.run s = (.ok a, t) := by
  obtain ⟨a, reached, hrun, hreply⟩ := Attempt.run_bind_eq_ok.mp h
  cases hreply
  exact ⟨a, hrun⟩

variable [Store σ]

/-- What a statement that is carried out makes of a session. -/
inductive Effect (s : Session σ) : Statement → Session σ → Prop
  | use {database : String} {tables : List String}
      (hexists : Store.databaseExists s.store database = true)
      (htables : Store.tables s.store database = .ok tables) :
      Effect s (.use database)
        ⟨s.store, some database, s.known.insert (storedName database) tables⟩
  | createDatabase {database : String} {store : σ}
      (hstore : Store.createDatabase s.store database = (.ok (), store)) :
      Effect s (.createDatabase database) { s with store := store }
  | createTable {table database : String} {columns : List String} {store : σ}
      (hselected : s.selected = some database)
      (hstore : Store.createTable s.store database table (Table.keyColumn :: columns) =
        (.ok (), store)) :
      Effect s (.createTable table columns)
        (addKnown { s with store := store } database table)
  | rewrite {statement : Statement} {table database : String} {lines : List String} {store : σ}
      (htable : statement.rewritten? = some table) (hselected : s.selected = some database)
      (hstore : Store.write s.store database table lines = (.ok (), store)) :
      Effect s statement { s with store := store }
  | query {statement : Statement} (hquery : statement.isQuery = true) : Effect s statement s
  | dropTable {table database : String} {store : σ} (hselected : s.selected = some database)
      (hstore : Store.dropTable s.store database table = (.ok (), store)) :
      Effect s (.dropTable table) (dropKnown { s with store := store } database table)
  | dropDatabase {database : String} {store : σ}
      (hstore : Store.dropDatabase s.store database = (.ok (), store)) :
      Effect s (.dropDatabase database) (dropDatabase { s with store := store } database)

theorem effect_of_run_changeTable {s t : Session σ} {statement : Statement} {table : String}
    {f : Table → Except Fault Table} (htable : statement.rewritten? = some table)
    (h : (Action.changeTable table f).run s = (.ok (), t)) : s.Effect statement t := by
  obtain ⟨_, _, _, database, store, hselected, _, hstore, rfl⟩ :=
    Action.exists_rewrites_of_run_changeTable h
  exact .rewrite htable hselected hstore

theorem effect_of_run_action {s t : Session σ} {statement : Statement} {reply : Reply}
    (h : (Statement.action statement).run s = (.ok reply, t)) : s.Effect statement t := by
  cases statement with
  | use database =>
      obtain ⟨_, hrun⟩ := exists_of_run_reply h
      obtain ⟨hexists, tables, htables, rfl⟩ := Action.exists_of_run_use hrun
      exact .use hexists htables
  | createDatabase database =>
      obtain ⟨_, hrun⟩ := exists_of_run_reply h
      obtain ⟨store, hstore, rfl⟩ := Action.exists_of_run_change hrun
      exact .createDatabase hstore
  | createTable table columns =>
      obtain ⟨_, hrun⟩ := exists_of_run_reply h
      obtain ⟨database, hcurrent, hrun⟩ :=
        Action.readOnly_current.exists_of_run_bind_eq_ok hrun
      obtain ⟨store, hstore, rfl⟩ := Action.exists_of_run_change_modify hrun
      exact .createTable (Action.selected_of_current (congrArg Prod.fst hcurrent)) hstore
  | insert table values =>
      obtain ⟨_, hrun⟩ := exists_of_run_reply h
      obtain ⟨database, lines, store, hselected, _, hstore, rfl⟩ :=
        Action.exists_of_run_insert hrun
      exact .rewrite rfl hselected hstore
  | update table assignments condition =>
      obtain ⟨_, hrun⟩ := exists_of_run_reply h
      exact effect_of_run_changeTable rfl hrun
  | delete table condition =>
      obtain ⟨_, hrun⟩ := exists_of_run_reply h
      exact effect_of_run_changeTable rfl hrun
  | alter table change column =>
      obtain ⟨_, hrun⟩ := exists_of_run_reply h
      exact effect_of_run_changeTable rfl hrun
  | dropTable table =>
      obtain ⟨_, hrun⟩ := exists_of_run_reply h
      obtain ⟨database, hcurrent, hrun⟩ :=
        Action.readOnly_current.exists_of_run_bind_eq_ok hrun
      obtain ⟨store, hstore, rfl⟩ := Action.exists_of_run_change_modify hrun
      exact .dropTable (Action.selected_of_current (congrArg Prod.fst hcurrent)) hstore
  | dropDatabase database =>
      obtain ⟨_, hrun⟩ := exists_of_run_reply h
      obtain ⟨store, hstore, rfl⟩ := Action.exists_of_run_change_modify hrun
      exact .dropDatabase hstore
  | select table columns condition =>
      obtain ⟨_, hrun⟩ := exists_of_run_reply h
      cases (Action.readOnly_select table columns condition).state_eq hrun
      exact .query rfl
  | join left right leftColumn rightColumn =>
      obtain ⟨_, hrun⟩ := exists_of_run_reply h
      cases (Action.readOnly_join left right leftColumn rightColumn).state_eq hrun
      exact .query rfl

theorem effect_of_perform {s : Session σ} {statement : Statement}
    (h : (s.perform statement).1.isAccepted = true) :
    s.Effect statement (s.perform statement).2 := by
  unfold perform at h ⊢
  split at h
  · next reply after hrun => exact effect_of_run_action hrun
  · cases h

/-- What an insertion that is carried out read, and what it wrote. -/
theorem exists_of_isAccepted_insert {s : Session σ} {text name : String} {values : List String}
    (hread : Statement.ofText text = .ok (.insert name values))
    (haccepted : (s.execute text).1.isAccepted = true) :
    ∃ database lines store, s.selected = some database ∧
      Action.linesAfterInsert (Store.read s.store database name) values = .ok lines ∧
      Store.write s.store database name lines = (.ok (), store) ∧
      s.execute text = (.done, { s with store := store }) := by
  rw [execute_of_ofText hread, perform, Statement.action, Attempt.run_bind] at haccepted ⊢
  cases hrun : (Action.insert name values : Action σ Unit).run s with
  | mk answer reached =>
      cases answer with
      | error fault =>
          rw [hrun] at haccepted
          cases haccepted
      | ok done =>
          obtain ⟨database, lines, store, hselected, hlines, hwrite, rfl⟩ :=
            Action.exists_of_run_insert hrun
          exact ⟨database, lines, store, hselected, hlines, hwrite, rfl⟩

/-- A text is refused and changes nothing, or it reads as a statement that is carried
out. -/
theorem execute_cases [Store.Transactional σ] (s : Session σ) (text : String) :
    ((s.execute text).1.isAccepted = false ∧ (s.execute text).2 = s) ∨
      ∃ statement, Statement.ofText text = .ok statement ∧
        (s.execute text).1.isAccepted = true ∧ s.Effect statement (s.execute text).2 := by
  cases haccepted : (s.execute text).1.isAccepted with
  | false => exact Or.inl ⟨rfl, execute_eq_self_of_refused haccepted⟩
  | true =>
      cases hread : Statement.ofText text with
      | error fault =>
          unfold execute at haccepted
          rw [hread] at haccepted
          split at haccepted
          · cases haccepted
          · cases haccepted
      | ok statement =>
          rw [execute_of_ofText hread] at haccepted ⊢
          exact Or.inr ⟨statement, rfl, rfl, effect_of_perform haccepted⟩

end Session

end TextTables
