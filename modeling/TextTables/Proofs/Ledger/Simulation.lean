import TextTables.Proofs.Ledger.WellFormed
import TextTables.Proofs.Session.Atomicity

/-!
# Sessions over catalogs carry out what ledgers say

A session shows a ledger if its catalog keeps the tables of the ledger on lines
and the same database is selected.  Statement by statement, the session answers
as the ledger does and shows the next ledger afterwards, because no well-formed
table is damaged on its way to the lines and back.
-/

namespace TextTables

open Attempt (run_bind run_state_bind)

namespace Ledger

/-! ## Catalogs of ledgers -/

/-- The tables of a ledger on lines. -/
def toCatalog (l : Ledger) : Catalog :=
  ⟨l.databases.mapValues (Dict.mapValues Table.toLines)⟩

/-- The lines on which a catalog keeps a table; none for no table. -/
def linesOf (found : Option Table) : List String :=
  (found.map Table.toLines).getD []

theorem database?_toCatalog (l : Ledger) (database : String) :
    l.toCatalog.database? database = (l.tables? database).map (Dict.mapValues Table.toLines) :=
  Dict.get?_mapValues _ _ _

theorem table?_toCatalog (l : Ledger) (database name : String) :
    l.toCatalog.table? database name = (l.table? database name).map Table.toLines := by
  rw [Catalog.table?, database?_toCatalog, table?]
  cases l.tables? database with
  | none => rfl
  | some tables => exact Dict.get?_mapValues _ _ _

theorem read_toCatalog (l : Ledger) (database name : String) :
    Store.read l.toCatalog database name = linesOf (l.table? database name) :=
  congrArg (Option.getD · []) (table?_toCatalog l database name)

theorem databaseExists_toCatalog (l : Ledger) (database : String) :
    Store.databaseExists l.toCatalog database =
      l.databases.contains (storedName database) :=
  Dict.contains_mapValues _ _ _

theorem toCatalog_put (l : Ledger) (database : String) (tables : Dict Table) :
    (l.put database tables).toCatalog =
      l.toCatalog.put database (tables.mapValues Table.toLines) := by
  rw [toCatalog, put, Dict.mapValues_insert]
  rfl

/-! ## Showing a ledger -/

/-- A session that keeps the tables of a ledger and has the same selection. -/
structure ShownBy (l : Ledger) (s : Session Catalog) : Prop where
  store : s.store = l.toCatalog
  selected : s.selected = l.selected

/-- From every session that shows the ledger the action finds the answer, and it leaves
the session alone. -/
def Answers (l : Ledger) {α : Type} (action : Action Catalog α) (answer : Except Fault α) :
    Prop :=
  ∀ s, l.ShownBy s → action.run s = (answer, s)

/-- From every session that shows the ledger the action fails as the answer says, or
leads to a session that shows the ledger answered. -/
def LeadsTo (l : Ledger) (action : Action Catalog Unit) (answer : Except Fault Ledger) :
    Prop :=
  ∀ s, l.ShownBy s → (action.run s).1 = answer.map (fun _ => ()) ∧
    ∀ next, answer = .ok next → next.ShownBy (action.run s).2

variable {l : Ledger} {α β : Type}

theorem answers_ofExcept (answer : Except Fault α) :
    l.Answers (Attempt.ofExcept answer) answer :=
  fun _ _ => rfl

theorem Answers.bind {first : Action Catalog α} {next : α → Action Catalog β}
    {answer : Except Fault α} {further : α → Except Fault β} (hfirst : l.Answers first answer)
    (hnext : ∀ a, answer = .ok a → l.Answers (next a) (further a)) :
    l.Answers (first >>= next) (answer >>= further) := by
  intro s hs
  rw [run_bind, hfirst s hs]
  cases answer with
  | error fault => rfl
  | ok a => exact hnext a rfl s hs

theorem Answers.bind_leadsTo {first : Action Catalog α} {next : α → Action Catalog Unit}
    {answer : Except Fault α} {further : α → Except Fault Ledger}
    (hfirst : l.Answers first answer)
    (hnext : ∀ a, answer = .ok a → l.LeadsTo (next a) (further a)) :
    l.LeadsTo (first >>= next) (answer >>= further) := by
  intro s hs
  rw [run_bind, hfirst s hs]
  cases answer with
  | error fault => exact ⟨rfl, fun next h => by cases h⟩
  | ok a => exact hnext a rfl s hs

/-! ## Reading -/

theorem answers_current : l.Answers Action.current l.current := by
  intro s hs
  rw [Action.current, run_state_bind, hs.selected, current]
  cases l.selected with
  | none => rfl
  | some database => rfl

/-- Reading lines means looking at the selection first. -/
theorem lines_bind_eq {σ : Type} [Store σ] (name : String) (next : List String → Action σ α) :
    Action.lines name >>= next =
      Action.current >>= fun database =>
        Attempt.state >>= fun s => next (Store.read s.store database name) := by
  rw [Action.lines, bind_assoc]
  rfl

theorem Answers.lines_bind {name : String} {next : List String → Action Catalog α}
    {further : String → Except Fault α}
    (h : ∀ database, l.current = .ok database →
      l.Answers (next (linesOf (l.table? database name))) (further database)) :
    l.Answers (Action.lines name >>= next) (l.current >>= further) := by
  rw [lines_bind_eq]
  refine answers_current.bind fun database hdatabase => ?_
  intro s hs
  rw [run_state_bind, hs.store, read_toCatalog]
  exact h database hdatabase s hs

/-- Lines are read under the selection that is known already. -/
theorem Answers.lines_bind_of_current {database name : String}
    (hdatabase : l.current = .ok database) {next : List String → Action Catalog α}
    {answer : Except Fault α}
    (h : l.Answers (next (linesOf (l.table? database name))) answer) :
    l.Answers (Action.lines name >>= next) answer := by
  have hbind : l.Answers (Action.lines name >>= next) (l.current >>= fun _ => answer) := by
    refine Answers.lines_bind fun other hother => ?_
    cases hdatabase.symm.trans hother
    exact h
  rwa [hdatabase, ok_bind] at hbind

theorem LeadsTo.lines_bind {name : String} {next : List String → Action Catalog Unit}
    {further : String → Except Fault Ledger}
    (h : ∀ database, l.current = .ok database →
      l.LeadsTo (next (linesOf (l.table? database name))) (further database)) :
    l.LeadsTo (Action.lines name >>= next) (l.current >>= further) := by
  rw [lines_bind_eq]
  refine answers_current.bind_leadsTo fun database hdatabase => ?_
  intro s hs
  rw [run_state_bind, hs.store, read_toCatalog]
  exact h database hdatabase s hs

/-- What is kept on lines is read from them again. -/
theorem WellFormed.ofLines?_linesOf (h : l.WellFormed) (database name : String) :
    Table.ofLines? (linesOf (l.table? database name)) = l.table? database name := by
  cases ht : l.table? database name with
  | none => rfl
  | some t => exact Table.ofLines?_toLines (h.table? ht).encodable

theorem WellFormed.answers_table (h : l.WellFormed) (name : String) :
    l.Answers (Action.table name) (l.table name) := by
  refine Answers.lines_bind fun database _ => ?_
  rw [Action.tableOf, h.ofLines?_linesOf]
  exact answers_ofExcept _

theorem WellFormed.answers_select (h : l.WellFormed) (name : String) (columns : Selection)
    (condition : Option Condition) :
    l.Answers (Action.select name columns condition) (l.select name columns condition) :=
  (h.answers_table name).bind fun _ _ => answers_ofExcept _

theorem WellFormed.answers_join (h : l.WellFormed)
    (left right leftColumn rightColumn : String) :
    l.Answers (Action.join left right leftColumn rightColumn)
      (l.join left right leftColumn rightColumn) := by
  refine Answers.lines_bind fun database hdatabase => ?_
  refine Answers.lines_bind_of_current hdatabase ?_
  rw [Action.bothOf, h.ofLines?_linesOf, h.ofLines?_linesOf]
  cases l.table? database left with
  | none => exact answers_ofExcept _
  | some leftTable =>
      cases l.table? database right with
      | none => exact answers_ofExcept _
      | some rightTable => exact answers_ofExcept _

/-! ## Writing -/

/-- What an operation on a catalog of tables does to the tables. -/
def Matches (result : Outcome Catalog) (l : Ledger) (answer : Except Fault Ledger) : Prop :=
  match answer with
  | .ok next => result = (.ok (), next.toCatalog) ∧ next.selected = l.selected
  | .error fault => result = (.error fault, l.toCatalog)

theorem leadsTo_change {operation : Catalog → Outcome Catalog}
    {answer : Except Fault Ledger} (h : Matches (operation l.toCatalog) l answer) :
    l.LeadsTo (Action.change operation) answer := by
  intro s hs
  have hrun : (Action.change operation).run s =
      ((operation l.toCatalog).1, { s with store := (operation l.toCatalog).2 }) := by
    rw [← hs.store]
    rfl
  rw [hrun]
  cases answer with
  | error fault =>
      rw [h]
      exact ⟨rfl, fun next hnext => by cases hnext⟩
  | ok next =>
      rw [h.1]
      refine ⟨rfl, fun other hother => ?_⟩
      cases hother
      exact ⟨rfl, hs.selected.trans h.2.symm⟩

theorem matches_createDatabase (database : String) :
    Matches (l.toCatalog.createDatabase database) l (l.createDatabase database) := by
  have hexists := databaseExists_toCatalog l database
  change l.toCatalog.databaseExists database = _ at hexists
  rw [Catalog.createDatabase, createDatabase, hexists]
  split
  · rfl
  · exact ⟨by rw [toCatalog_put, Dict.mapValues_empty], rfl⟩

theorem matches_createTable (database name : String) (columns : List String) :
    Matches (l.toCatalog.createTable database name (Table.keyColumn :: columns)) l
      (l.createTableIn database name columns) := by
  rw [Catalog.createTable, createTableIn, database?_toCatalog]
  cases l.tables? database with
  | none => rfl
  | some tables =>
      rw [Option.map_some]
      simp only [Dict.contains_mapValues]
      split
      · rfl
      · exact ⟨by rw [toCatalog_put, Dict.mapValues_insert]; rfl, rfl⟩

theorem matches_write (database name : String) (t : Table) :
    Matches (l.toCatalog.write database name t.toLines) l (l.replaceIn database name t) := by
  rw [Catalog.write, replaceIn, database?_toCatalog]
  cases l.tables? database with
  | none => rfl
  | some tables =>
      rw [Option.map_some]
      simp only [Dict.contains_mapValues]
      split
      · exact ⟨by rw [toCatalog_put, Dict.mapValues_insert], rfl⟩
      · rfl

theorem matches_dropTable (database name : String) :
    Matches (l.toCatalog.dropTable database name) l (l.dropTableIn database name) := by
  rw [Catalog.dropTable, dropTableIn, database?_toCatalog]
  cases l.tables? database with
  | none => rfl
  | some tables =>
      rw [Option.map_some]
      simp only [Dict.contains_mapValues]
      split
      · exact ⟨by rw [toCatalog_put, Dict.mapValues_erase], rfl⟩
      · rfl

theorem matches_dropDatabase (database : String) :
    Matches (l.toCatalog.dropDatabase database) l (l.eraseDatabase database) := by
  have hexists := databaseExists_toCatalog l database
  change l.toCatalog.databaseExists database = _ at hexists
  rw [Catalog.dropDatabase, eraseDatabase, hexists]
  split
  · refine ⟨congrArg (Prod.mk (Except.ok ())) ?_, rfl⟩
    simp only [toCatalog, Dict.mapValues_erase]
  · rfl

/-! ## Changing -/

/-- After a change the session may change what it remembers. -/
theorem LeadsTo.bind_modify {first : Action Catalog Unit} {answer : Except Fault Ledger}
    {f : Session Catalog → Session Catalog} {g : Ledger → Ledger}
    (hfirst : l.LeadsTo first answer)
    (hf : ∀ s (next : Ledger), next.ShownBy s → (g next).ShownBy (f s)) :
    l.LeadsTo (first >>= fun _ => Attempt.modify f) (answer.map g) := by
  intro s hs
  obtain ⟨hanswer, hshown⟩ := hfirst s hs
  rw [run_bind]
  cases answer with
  | error fault =>
      have hrun : first.run s = (.error fault, (first.run s).2) := Prod.ext hanswer rfl
      rw [hrun]
      exact ⟨rfl, fun next hnext => by cases hnext⟩
  | ok reached =>
      have hrun : first.run s = (.ok (), (first.run s).2) := Prod.ext hanswer rfl
      rw [hrun]
      refine ⟨rfl, fun next hnext => ?_⟩
      cases hnext
      exact hf _ reached (hshown reached rfl)

/-- What a session remembers of the tables is nothing that a ledger holds. -/
theorem LeadsTo.bind_modify_shown {first : Action Catalog Unit} {answer : Except Fault Ledger}
    {f : Session Catalog → Session Catalog} (hfirst : l.LeadsTo first answer)
    (hf : ∀ s (next : Ledger), next.ShownBy s → next.ShownBy (f s)) :
    l.LeadsTo (first >>= fun _ => Attempt.modify f) answer := by
  have hmodify := hfirst.bind_modify (g := id) hf
  rwa [Except.map_id] at hmodify

theorem leadsTo_use (database : String) : l.LeadsTo (Action.use database) (l.use database) := by
  intro s hs
  rw [Action.use, run_state_bind, hs.store, databaseExists_toCatalog, use]
  split
  · next hexists =>
      obtain ⟨tables, htables⟩ := Dict.contains_iff.mp hexists
      have hkeys : Store.tables l.toCatalog database =
          .ok (tables.mapValues Table.toLines).keys := by
        change l.toCatalog.tables database = _
        rw [Catalog.tables, database?_toCatalog, tables?, htables]
        rfl
      rw [hkeys]
      refine ⟨rfl, fun next hnext => ?_⟩
      cases hnext
      exact ⟨hs.store, rfl⟩
  · exact ⟨rfl, fun next hnext => by cases hnext⟩

theorem leadsTo_createTable (name : String) (columns : List String) :
    l.LeadsTo (Action.createTable name columns) (l.createTable name columns) := by
  refine answers_current.bind_leadsTo fun database _ => ?_
  have hchange : l.LeadsTo (Action.change fun store =>
        Store.createTable store database name (Table.keyColumn :: columns))
      (l.createTableIn database name columns) :=
    leadsTo_change (matches_createTable database name columns)
  exact hchange.bind_modify_shown fun s next hs => ⟨hs.store, hs.selected⟩

theorem ShownBy.dropKnown {s : Session Catalog} (hs : l.ShownBy s)
    (database name : String) : l.ShownBy (s.dropKnown database name) := by
  unfold Session.dropKnown
  split
  · exact hs
  · exact ⟨hs.store, hs.selected⟩

theorem leadsTo_dropTable (name : String) :
    l.LeadsTo (Action.dropTable name) (l.dropTable name) := by
  refine answers_current.bind_leadsTo fun database _ => ?_
  have hchange : l.LeadsTo (Action.change fun store => Store.dropTable store database name)
      (l.dropTableIn database name) :=
    leadsTo_change (matches_dropTable database name)
  exact hchange.bind_modify_shown fun s next hs => hs.dropKnown database name

theorem ShownBy.dropDatabase {s : Session Catalog} (hs : l.ShownBy s)
    (database : String) : (l.deselect database).ShownBy (s.dropDatabase database) := by
  unfold Session.dropDatabase
  have hselected : (l.deselect database).selected =
      s.selected.filter fun selected => !Text.sameWord selected database := by
    rw [hs.selected]
    rfl
  cases hcurrent : s.selected with
  | none =>
      rw [hcurrent] at hselected
      exact ⟨hs.store, hselected.symm⟩
  | some selected =>
      simp only
      rw [hcurrent, Option.filter_some] at hselected
      split
      · next hsame =>
          rw [hsame] at hselected
          exact ⟨hs.store, hselected.symm⟩
      · next hother =>
          rw [Bool.eq_false_iff.mpr hother] at hselected
          exact ⟨hs.store, hselected.symm⟩

theorem leadsTo_dropDatabase (database : String) :
    l.LeadsTo (Action.dropDatabase database) (l.dropDatabase database) := by
  have hchange : l.LeadsTo (Action.change fun store => Store.dropDatabase store database)
      (l.eraseDatabase database) :=
    leadsTo_change (matches_dropDatabase database)
  exact hchange.bind_modify (f := fun s => s.dropDatabase database)
    (g := fun next => next.deselect database) fun s next hs => hs.dropDatabase database

theorem leadsTo_put (name : String) (t : Table) :
    l.LeadsTo (Action.put name t.toLines) (do l.replaceIn (← l.current) name t) :=
  answers_current.bind_leadsTo fun database _ =>
    leadsTo_change (matches_write database name t)

theorem WellFormed.leadsTo_changeTable (h : l.WellFormed) (name : String)
    (f : Table → Except Fault Table) :
    l.LeadsTo (Action.changeTable name f) (l.change name f) := by
  refine (h.answers_table name).bind_leadsTo fun found _ => ?_
  refine (answers_ofExcept _).bind_leadsTo fun changed _ => ?_
  exact leadsTo_put name changed

/-- A table that is not there is not written. -/
theorem leadsTo_put_missing {database name : String} (hdatabase : l.current = .ok database)
    (hname : l.table? database name = none) (lines : List String) :
    l.LeadsTo (Action.put name lines) (.error (.tableMissing name)) := by
  have hmissing : Matches (l.toCatalog.write database name lines) l
      (.error (.tableMissing name)) := by
    rw [table?] at hname
    rw [Catalog.write, database?_toCatalog]
    cases htables : l.tables? database with
    | none => rfl
    | some tables =>
        have hcontains : tables.contains (storedName name) = false := by
          rw [htables] at hname
          exact Option.isSome_eq_false_iff.mpr (Option.isNone_iff_eq_none.mpr hname)
        rw [Option.map_some]
        simp only [Dict.contains_mapValues, hcontains]
        rfl
  have hput : l.LeadsTo (Action.put name lines)
      (l.current >>= fun _ => .error (.tableMissing name)) := by
    refine answers_current.bind_leadsTo fun other hother => ?_
    cases hdatabase.symm.trans hother
    exact leadsTo_change hmissing
  rwa [hdatabase] at hput

theorem WellFormed.leadsTo_insert (h : l.WellFormed) (name : String) (values : List String) :
    l.LeadsTo (Action.insert name values) (l.insert name values) := by
  refine LeadsTo.lines_bind fun database hdatabase => ?_
  rw [Action.linesAfterInsert, h.ofLines?_linesOf]
  cases hname : l.table? database name with
  | none =>
      simp only
      rw [Attempt.ofExcept_map_bind]
      exact (answers_ofExcept _).bind_leadsTo fun header _ =>
        leadsTo_put_missing hdatabase hname [Row.toLine header]
  | some found =>
      simp only
      rw [Attempt.ofExcept_map_bind]
      refine (answers_ofExcept _).bind_leadsTo fun changed _ => ?_
      have hput := leadsTo_put (l := l) name changed
      rwa [hdatabase] at hput

/-! ## Statements -/

/-- A session and a ledger answer alike, and the session shows the ledger. -/
structure Agree (session : Reply × Session Catalog) (ledger : Reply × Ledger) : Prop where
  reply : session.1 = ledger.1
  shown : ledger.2.ShownBy session.2

theorem agree_of_answers {statement : Statement} {answer : Except Fault Table}
    {query : Action Catalog Table} (hquery : l.Answers query answer)
    (haction : statement.action = query >>= fun found => pure (Reply.rows found))
    (hstep : l.step statement = answer.map fun found => (Reply.rows found, l))
    {s : Session Catalog} (hs : l.ShownBy s) :
    Agree (s.perform statement) (l.perform statement) := by
  rw [Session.perform, Ledger.perform, haction, hstep, run_bind, hquery s hs]
  cases answer with
  | error fault => exact ⟨rfl, hs⟩
  | ok found => exact ⟨rfl, hs⟩

/-- A refused change leaves the session alone, so it still shows the ledger. -/
theorem agree_of_leadsTo {statement : Statement} {answer : Except Fault Ledger}
    {change : Action Catalog Unit} (hchange : l.LeadsTo change answer)
    (haction : statement.action = change >>= fun _ => pure Reply.done)
    (hstep : l.step statement = answer.map fun next => (Reply.done, next))
    {s : Session Catalog} (hs : l.ShownBy s) :
    Agree (s.perform statement) (l.perform statement) := by
  obtain ⟨hanswer, hshown⟩ := hchange s hs
  cases answer with
  | error fault =>
      have hrun : change.run s = (.error fault, (change.run s).2) := Prod.ext hanswer rfl
      have hreply : (s.perform statement).1 = .refused fault := by
        rw [Session.perform, haction, run_bind, hrun]
      have hself : (s.perform statement).2 = s :=
        Session.perform_eq_self_of_refused (by rw [hreply]; rfl)
      have hledger : l.perform statement = (.refused fault, l) := by
        rw [Ledger.perform, hstep]
        rfl
      exact ⟨by rw [hreply, hledger], by rwa [hself, hledger]⟩
  | ok next =>
      have hrun : change.run s = (.ok (), (change.run s).2) := Prod.ext hanswer rfl
      rw [Session.perform, haction, run_bind, hrun, Ledger.perform, hstep]
      exact ⟨rfl, hshown next rfl⟩

theorem WellFormed.agree_perform (h : l.WellFormed) {s : Session Catalog} (hs : l.ShownBy s)
    (statement : Statement) : Agree (s.perform statement) (l.perform statement) := by
  cases statement with
  | use database => exact agree_of_leadsTo (leadsTo_use database) rfl rfl hs
  | createDatabase database =>
      exact agree_of_leadsTo (leadsTo_change (matches_createDatabase database)) rfl rfl hs
  | createTable name columns =>
      exact agree_of_leadsTo (leadsTo_createTable name columns) rfl rfl hs
  | insert name values => exact agree_of_leadsTo (h.leadsTo_insert name values) rfl rfl hs
  | select name columns condition =>
      exact agree_of_answers (h.answers_select name columns condition) rfl rfl hs
  | update name assignments condition =>
      exact agree_of_leadsTo (h.leadsTo_changeTable name _) rfl rfl hs
  | delete name condition =>
      exact agree_of_leadsTo (h.leadsTo_changeTable name _) rfl rfl hs
  | alter name change column =>
      exact agree_of_leadsTo (h.leadsTo_changeTable name _) rfl rfl hs
  | dropTable name => exact agree_of_leadsTo (leadsTo_dropTable name) rfl rfl hs
  | dropDatabase database => exact agree_of_leadsTo (leadsTo_dropDatabase database) rfl rfl hs
  | join left right leftColumn rightColumn =>
      exact agree_of_answers (h.answers_join left right leftColumn rightColumn) rfl rfl hs

theorem WellFormed.agree_execute (h : l.WellFormed) {s : Session Catalog} (hs : l.ShownBy s)
    (text : String) : Agree (s.execute text) (l.execute text) := by
  rw [Session.execute, Ledger.execute]
  split
  · exact ⟨rfl, hs⟩
  · cases Statement.ofText text with
    | error fault => exact ⟨rfl, hs⟩
    | ok statement => exact h.agree_perform hs statement

end Ledger

end TextTables
