import TextTables.Proofs.Ledger.Simulation
import TextTables.Proofs.Session.Runs

/-!
# Whole runs of sessions and ledgers

A session that starts without databases gives the replies that the empty ledger
gives, text by text, and selects what the ledger selects.  A row that was put in
is therefore shown as it was put in, cell for cell.
-/

namespace TextTables

namespace Ledger

theorem execute_of_ofText {text : String} {statement : Statement}
    (h : Statement.ofText text = .ok statement) (l : Ledger) :
    l.execute text = l.perform statement := by
  rw [execute, if_neg (Bool.eq_false_iff.mp (Statement.allBlank_eq_false_of_ofText h)), h]

/-! ## Runs -/

theorem shownBy_start : empty.ShownBy (Session.start Catalog.empty) :=
  ⟨rfl, rfl⟩

theorem WellFormed.afterAll {l : Ledger} (h : l.WellFormed) (texts : List String) :
    (l.afterAll texts).WellFormed := by
  induction texts generalizing l with
  | nil => exact h
  | cons text more ih => exact ih (h.execute text)

theorem WellFormed.shownBy_afterAll {l : Ledger} (h : l.WellFormed) {s : Session Catalog}
    (hs : l.ShownBy s) (texts : List String) :
    (l.afterAll texts).ShownBy (s.executeAll texts).2 := by
  induction texts generalizing l s with
  | nil => exact hs
  | cons text more ih =>
      rw [Session.executeAll_cons]
      exact ih (h.execute text) (h.agree_execute hs text).shown

theorem WellFormed.transcript_eq {l : Ledger} (h : l.WellFormed) {s : Session Catalog}
    (hs : l.ShownBy s) (texts : List String) : s.transcript texts = l.transcript texts := by
  induction texts generalizing l s with
  | nil => rfl
  | cons text more ih =>
      obtain ⟨hreply, hshown⟩ := h.agree_execute hs text
      have hmore := ih (h.execute text) hshown
      simp only [Session.transcript, transcript]
      rw [hreply, hshown.selected, hmore]

/-! ## What is shown of a row that was put in -/

theorem table?_put_self (l : Ledger) (database name : String) (tables : Dict Table)
    (t : Table) :
    (l.put database (tables.insert (storedName name) t)).table? database name = some t := by
  have htables : (l.put database (tables.insert (storedName name) t)).tables? database =
      some (tables.insert (storedName name) t) :=
    Dict.get?_insert_self _ _ _
  rw [table?, htables]
  exact Dict.get?_insert_self _ _ _

theorem table_of_table? {l : Ledger} {database name : String} {t : Table}
    (hselected : l.selected = some database) (ht : l.table? database name = some t) :
    l.table name = .ok t := by
  have hcurrent : l.current = .ok database := by rw [current, hselected]
  rw [table, hcurrent, ok_bind, ht]

theorem exists_of_table_eq_ok {l : Ledger} {name : String} {t : Table} (h : l.table name = .ok t) :
    ∃ database, l.selected = some database ∧ l.table? database name = some t := by
  obtain ⟨database, hcurrent, h⟩ := exists_of_bind_eq_ok h
  refine ⟨database, exists_of_current_eq_ok hcurrent, ?_⟩
  split at h
  · next found hfound =>
      cases h
      exact hfound
  · cases h

theorem replaceIn_eq_ok {l : Ledger} {database name : String} {tables : Dict Table} {t : Table}
    (htables : l.tables? database = some tables) (ht : tables.get? (storedName name) = some t)
    (changed : Table) : l.replaceIn database name changed =
      .ok (l.put database (tables.insert (storedName name) changed)) := by
  have hcontains : tables.contains (storedName name) = true := Dict.contains_iff.mpr ⟨t, ht⟩
  rw [replaceIn, htables]
  exact if_pos hcontains

/-- A table that is there can be replaced. -/
theorem exists_replaceIn_eq_ok {l : Ledger} {database name : String} {t : Table}
    (ht : l.table? database name = some t) (changed : Table) :
    ∃ next, l.replaceIn database name changed = .ok next ∧ next.selected = l.selected ∧
      next.table? database name = some changed := by
  obtain ⟨tables, htables, hname⟩ := Option.bind_eq_some_iff.mp ht
  exact ⟨_, replaceIn_eq_ok htables hname changed, rfl,
    table?_put_self l database name tables changed⟩

/-- What a ledger holds after a row was put in. -/
theorem exists_of_insert_eq_ok {l next : Ledger} {name : String} {values : List String}
    (hnext : l.insert name values = .ok next) :
    ∃ database t changed, l.selected = some database ∧ next.selected = some database ∧
      l.table? database name = some t ∧ t.insert values = .ok changed ∧
      next.table? database name = some changed := by
  obtain ⟨database, hcurrent, hnext⟩ := exists_of_bind_eq_ok hnext
  have hselected := exists_of_current_eq_ok hcurrent
  split at hnext
  · next t ht =>
      obtain ⟨changed, hchanged, hnext⟩ := exists_of_bind_eq_ok hnext
      obtain ⟨reached, hreached, hkept, ht'⟩ := exists_replaceIn_eq_ok ht changed
      cases hreached.symm.trans hnext
      exact ⟨database, t, changed, hselected, hkept.trans hselected, ht, hchanged, ht'⟩
  · obtain ⟨header, _, hnext⟩ := exists_of_bind_eq_ok hnext
    cases hnext

theorem exists_of_isAccepted_insert {l : Ledger} {name : String} {values : List String}
    (h : (l.perform (.insert name values)).1.isAccepted = true) :
    ∃ next, l.insert name values = .ok next ∧ l.perform (.insert name values) = (.done, next) := by
  rw [perform, step] at h ⊢
  cases hnext : l.insert name values with
  | error fault =>
      rw [hnext] at h
      cases h
  | ok next => exact ⟨next, rfl, rfl⟩

theorem perform_use {l : Ledger} {database name : String} {t : Table}
    (ht : l.table? database name = some t) :
    l.perform (.use database) = (.done, { l with selected := some database }) := by
  have hcontains : l.databases.contains (storedName database) = true := by
    obtain ⟨tables, htables, _⟩ := Option.bind_eq_some_iff.mp ht
    exact Dict.contains_iff.mpr ⟨tables, htables⟩
  rw [perform, step, use, if_pos hcontains]
  rfl

theorem perform_select_eq {l : Ledger} {database name : String} {t shown : Table}
    {columns : Selection} {condition : Option Condition} (hselected : l.selected = some database)
    (ht : l.table? database name = some t) (hshown : t.select columns condition = .ok shown) :
    l.perform (.select name columns condition) = (.rows shown, l) := by
  have hselect : l.select name columns condition = .ok shown := by
    rw [select, table_of_table? hselected ht]
    exact hshown
  rw [perform, step, hselect]
  rfl

theorem perform_select {l : Ledger} {database name : String} {t : Table}
    (hselected : l.selected = some database) (ht : l.table? database name = some t)
    (hwell : t.WellFormed) : (l.perform (.select name .all none)).1 = .rows t := by
  rw [perform_select_eq hselected ht hwell.select_all]

end Ledger

namespace Session

/-- **Tables on lines are as good as tables.**  From no databases, texts are answered
word for word as by the ledger that never writes a table on lines, and the same database
is selected after each.  In particular all that a query shows of a table after a row was
put in is what it showed before and, below it, the row: an id and the values without
their quotes. -/
theorem transcript_eq_ledger (texts : List String) :
    (start Catalog.empty).transcript texts = Ledger.empty.transcript texts ∧
      ∀ insertion query name values,
        Statement.ofText insertion = .ok (.insert name values) →
        Statement.ofText query = .ok (.select name .all none) →
        let s := ((start Catalog.empty).executeAll texts).2
        (s.execute insertion).1.isAccepted = true →
          ∃ shown id, (s.execute query).1 = .rows shown ∧
            ((s.execute insertion).2.execute query).1 = .rows { shown with
              rows := shown.rows ++ [id :: values.map Token.stripQuotes] } := by
  have hstart := Ledger.shownBy_start
  have hempty := Ledger.wellFormed_empty
  refine ⟨hempty.transcript_eq hstart texts, ?_⟩
  intro insertion query name values hinsertion hquery s haccepted
  have hl := hempty.afterAll texts
  have hs := hempty.shownBy_afterAll hstart texts
  obtain ⟨hreply, hshown⟩ := hl.agree_execute hs insertion
  have hbefore := (hl.agree_execute hs query).reply
  have hwell := hl.execute insertion
  have hafter := (hwell.agree_execute hshown query).reply
  rw [hreply, Ledger.execute_of_ofText hinsertion] at haccepted
  obtain ⟨next, hnext, hperform⟩ := Ledger.exists_of_isAccepted_insert haccepted
  obtain ⟨database, t, changed, hselected, hselected', ht, hchanged, ht'⟩ :=
    Ledger.exists_of_insert_eq_ok hnext
  obtain ⟨ids, hids⟩ := (hl.table? ht).keyed
  obtain ⟨_, _, hrows⟩ := hids.insert_eq_ok hchanged
  rw [Ledger.execute_of_ofText hinsertion, hperform] at hwell hafter
  rw [Ledger.execute_of_ofText hquery] at hbefore hafter
  refine ⟨t, Whole.toText (Table.largest ids + 1), ?_, ?_⟩
  · rw [hbefore]
    exact Ledger.perform_select hselected ht (hl.table? ht)
  · rw [hafter, ← hrows]
    exact Ledger.perform_select hselected' ht' (hwell.table? ht')

/-- The text of a value is shown between its quotes, also where it is empty. -/
theorem transcript_eq_ledger_empty_value :
    let s := ((start Catalog.empty).executeAll
      ["CREATE DATABASE d;", "USE d;", "CREATE TABLE t(c);"]).2
    (s.execute "INSERT INTO t VALUES ('');").1.isAccepted = true ∧
      ∃ shown id, (s.execute "SELECT * FROM t;").1 = .rows shown ∧
        ((s.execute "INSERT INTO t VALUES ('');").2.execute "SELECT * FROM t;").1 = .rows {
          shown with rows := shown.rows ++ [id :: ["''"].map Token.stripQuotes] } := by
  have haccepted : ((((start Catalog.empty).executeAll
      ["CREATE DATABASE d;", "USE d;", "CREATE TABLE t(c);"]).2).execute
        "INSERT INTO t VALUES ('');").1.isAccepted = true := by decide +kernel
  refine ⟨haccepted, ?_⟩
  exact (transcript_eq_ledger ["CREATE DATABASE d;", "USE d;", "CREATE TABLE t(c);"]).2
    "INSERT INTO t VALUES ('');" "SELECT * FROM t;" "t" ["''"] (by decide +kernel)
    (by decide +kernel) haccepted

end Session

end TextTables
