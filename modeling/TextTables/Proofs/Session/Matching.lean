import TextTables.Proofs.Ledger.Transcript
import TextTables.Proofs.Statement.Composed
import TextTables.Proofs.Table.Matching

/-!
# Queries, removals and updates with one condition

The rows that a query shows for a condition are those that a removal with the same
condition takes out, and those that an update with it changes.  All three are followed on
the ledger: there the table is a value, and the condition that they were read with is the
same.
-/

namespace TextTables

open Grammar (Assigned Listed)

namespace Ledger

variable {l : Ledger} {database name : String} {t : Table}

theorem change_eq_ok {tables : Dict Table} (hselected : l.selected = some database)
    (htables : l.tables? database = some tables) (ht : tables.get? (storedName name) = some t)
    {f : Table → Except Fault Table} {changed : Table} (hchanged : f t = .ok changed) :
    l.change name f = .ok (l.put database (tables.insert (storedName name) changed)) := by
  have htable : l.table? database name = some t := Option.bind_eq_some_iff.mpr ⟨_, htables, ht⟩
  have hcurrent : l.current = .ok database := by rw [current, hselected]
  rw [change, table_of_table? hselected htable, ok_bind, hchanged, ok_bind, hcurrent, ok_bind,
    replaceIn_eq_ok htables ht]

/-- A table that is changed twice, under its name in any spelling, is put in place once. -/
theorem change_change_eq_ok {tables : Dict Table} {other : String}
    (hselected : l.selected = some database) (htables : l.tables? database = some tables)
    (ht : tables.get? (storedName name) = some t) (hother : storedName other = storedName name)
    {f g : Table → Except Fault Table} {changed last : Table} (hchanged : f t = .ok changed)
    (hlast : g changed = .ok last) :
    ∃ next, l.change name f = .ok next ∧
      next.change other g = .ok (l.put database (tables.insert (storedName name) last)) := by
  refine ⟨_, change_eq_ok hselected htables ht hchanged, ?_⟩
  have hchanged' : (tables.insert (storedName name) changed).get? (storedName other) =
      some changed := by
    rw [hother]
    exact Dict.get?_insert_self _ _ _
  rw [change_eq_ok (l := l.put database (tables.insert (storedName name) changed)) hselected
      (Dict.get?_insert_self _ _ _) hchanged' hlast, hother, Dict.insert_insert, put, put, put,
    Dict.insert_insert]

/-- Where a table of the selected database is changed, it is there changed. -/
theorem exists_change_eq_ok (hselected : l.selected = some database)
    (ht : l.table? database name = some t) {f : Table → Except Fault Table} {changed : Table}
    (hchanged : f t = .ok changed) :
    ∃ next, l.change name f = .ok next ∧ next.selected = some database ∧
      next.table? database name = some changed := by
  obtain ⟨tables, htables, hname⟩ := Option.bind_eq_some_iff.mp ht
  exact ⟨_, change_eq_ok hselected htables hname hchanged, hselected,
    table?_put_self l database name tables changed⟩

/-- A query that shows rows found its table. -/
theorem exists_of_perform_select {columns : Selection} {condition : Option Condition}
    {shown : Table} (h : (l.perform (.select name columns condition)).1 = .rows shown) :
    ∃ database t, l.selected = some database ∧ l.table? database name = some t ∧
      t.select columns condition = .ok shown := by
  rw [perform, step] at h
  cases hselect : l.select name columns condition with
  | error fault =>
      rw [hselect] at h
      cases h
  | ok found =>
      rw [hselect] at h
      cases h
      obtain ⟨t, htable, hshown⟩ := exists_of_bind_eq_ok hselect
      obtain ⟨database, hselected, ht⟩ := exists_of_table_eq_ok htable
      exact ⟨database, t, hselected, ht, hshown⟩

theorem execute_of_change {text : String} {statement : Statement}
    {f : Table → Except Fault Table} {next : Ledger} (hread : Statement.ofText text = .ok statement)
    (hstep : l.step statement = (l.change name f).map fun next => (.done, next))
    (hnext : l.change name f = .ok next) : l.execute text = (.done, next) := by
  rw [execute_of_ofText hread, perform, hstep, hnext]
  rfl

/-- What is shown of a table after a statement that changes it. -/
theorem WellFormed.rows_after_change (hl : l.WellFormed) {text query : String}
    {statement : Statement} {f : Table → Except Fault Table} {changed : Table}
    (hread : Statement.ofText text = .ok statement)
    (hquery : Statement.ofText query = .ok (.select name .all none))
    (hstep : l.step statement = (l.change name f).map fun next => (.done, next))
    (hselected : l.selected = some database) (ht : l.table? database name = some t)
    (hchanged : f t = .ok changed) :
    (l.execute text).1 = .done ∧ ((l.execute text).2.execute query).1 = .rows changed := by
  obtain ⟨next, hnext, hselected', ht'⟩ := exists_change_eq_ok hselected ht hchanged
  have hwell := hl.execute text
  rw [execute_of_change hread hstep hnext] at hwell ⊢
  refine ⟨rfl, ?_⟩
  rw [execute_of_ofText hquery]
  exact perform_select hselected' ht' (hwell.table? ht')

/-- A statement that is carried out made a table of the one that it changes. -/
theorem exists_of_isAccepted_change {text : String} {statement : Statement}
    {f : Table → Except Fault Table} (hread : Statement.ofText text = .ok statement)
    (hstep : l.step statement = (l.change name f).map fun next => (.done, next))
    (hselected : l.selected = some database) (ht : l.table? database name = some t)
    (haccepted : (l.execute text).1.isAccepted = true) : ∃ changed, f t = .ok changed := by
  cases hchanged : f t with
  | ok changed => exact ⟨changed, rfl⟩
  | error fault =>
      have hrefused : l.change name f = .error fault := by
        rw [change, table_of_table? hselected ht, ok_bind, hchanged]
        rfl
      rw [execute_of_ofText hread, perform, hstep, hrefused] at haccepted
      cases haccepted

/-- A removal leaves the rows that do not meet the condition. -/
theorem WellFormed.rows_after_delete (hl : l.WellFormed) {text query : String}
    {condition : Condition} (hread : Statement.ofText text = .ok (.delete name (some condition)))
    (hquery : Statement.ofText query = .ok (.select name .all none))
    (hselected : l.selected = some database) (ht : l.table? database name = some t) :
    (l.execute text).1 = .done ∧ ((l.execute text).2.execute query).1 =
      .rows { t with rows := t.rows.filter (· ∉ t.meeting condition) } := by
  rw [← Table.delete_eq_filter_not_mem]
  exact hl.rows_after_change (f := fun t => .ok (t.delete (some condition))) hread hquery rfl
    hselected ht rfl

/-- An update changes the rows that meet the condition, and none of their ids. -/
theorem WellFormed.rows_after_update (hl : l.WellFormed) {text query : String}
    {assignments : List (String × String)} {condition : Condition}
    (hread : Statement.ofText text = .ok (.update name assignments (some condition)))
    (hquery : Statement.ofText query = .ok (.select name .all none))
    (hselected : l.selected = some database) (ht : l.table? database name = some t)
    (haccepted : (l.execute text).1.isAccepted = true) :
    ∃ changed, ((l.execute text).2.execute query).1 = .rows changed ∧
      changed = {
        t with
        rows := t.rows.map fun row =>
          if row ∈ t.meeting condition then Table.reassigned assignments t.header row
          else row } ∧
      changed.rows.map List.head? = t.rows.map List.head? := by
  have hwell := hl.table? ht
  have hkeys := fun assignment hmem =>
    ((Statement.wellRead_of_ofText hread).admissible assignment hmem).1
  obtain ⟨changed, hchanged⟩ := exists_of_isAccepted_change
    (f := fun t => t.update assignments (some condition)) hread rfl hselected ht haccepted
  obtain ⟨_, hrows⟩ := hl.rows_after_change
    (f := fun t => t.update assignments (some condition)) hread hquery rfl hselected ht hchanged
  have heq := hwell.update_eq_ok_meeting hchanged
  refine ⟨changed, hrows, heq, ?_⟩
  rw [heq, List.map_map]
  refine List.map_congr_left fun row hrow => ?_
  by_cases hmem : row ∈ t.meeting condition
  · simp only [Function.comp_apply, hmem, if_true, hwell.head?_reassigned hkeys row hrow]
  · simp only [Function.comp_apply, hmem, if_false]

/-- Of a text, and of one after it, a session says what the ledger says that it shows. -/
theorem WellFormed.replies_eq (hl : l.WellFormed) {s : Session Catalog} (hs : l.ShownBy s)
    (text query : String) :
    (s.execute text).1 = (l.execute text).1 ∧
      ((s.execute text).2.execute query).1 = ((l.execute text).2.execute query).1 := by
  obtain ⟨hreply, hshown⟩ := hl.agree_execute hs text
  exact ⟨hreply, ((hl.execute text).agree_execute hshown query).reply⟩

end Ledger

namespace Session

/-- **Queries, removals and updates agree on the rows of a condition.**  From every state
that texts lead to, a query with a condition shows some of the rows of the table, in their
order.  A removal with this condition is carried out and leaves exactly the other rows.
An update with it that is carried out leaves the other rows as they are, and in each row
that the query shows it puts the last of the values that are given to a column, and nothing
elsewhere; the ids stay. -/
theorem rows_where_agree (texts : List String) {table rows : String} {condition : Condition}
    {shown : Table}
    (hread : Statement.ofText ("SELECT * FROM " ++ table ++ " WHERE " ++ rows ++ ";") =
      .ok (.select table .all (some condition)))
    (hshown : (((start Catalog.empty).executeAll texts).2.execute
      ("SELECT * FROM " ++ table ++ ";")).1 = .rows shown) :
    let s := ((start Catalog.empty).executeAll texts).2
    ∃ found, (s.execute ("SELECT * FROM " ++ table ++ " WHERE " ++ rows ++ ";")).1 = .rows found ∧
      found = { shown with rows := shown.rows.filter (· ∈ found.rows) } ∧
      (let removed := s.execute ("DELETE FROM " ++ table ++ " WHERE " ++ rows ++ ";")
       removed.1 = .done ∧ (removed.2.execute ("SELECT * FROM " ++ table ++ ";")).1 =
         .rows { shown with rows := shown.rows.filter (· ∉ found.rows) }) ∧
      ∀ sets tokens assignments, Token.ofText sets = .ok tokens →
        Listed Assigned tokens assignments →
        let updated :=
          s.execute ("UPDATE " ++ table ++ " SET " ++ sets ++ " WHERE " ++ rows ++ ";")
        updated.1.isAccepted = true →
          ∃ changed, (updated.2.execute ("SELECT * FROM " ++ table ++ ";")).1 = .rows changed ∧
            changed = {
              shown with
              rows := shown.rows.map fun row =>
                if row ∈ found.rows then Table.reassigned assignments shown.header row
                else row } ∧
            changed.rows.map List.head? = shown.rows.map List.head? := by
  intro s
  have hname := Statement.isNameWord_of_ofText_select hread
  have hasks := Statement.asksFor_of_ofText_select hread
  have hquery := Statement.ofText_select hname
  have hl := Ledger.wellFormed_empty.afterAll texts
  have hs := Ledger.wellFormed_empty.shownBy_afterAll Ledger.shownBy_start texts
  rw [(hl.agree_execute hs _).reply, Ledger.execute_of_ofText hquery] at hshown
  obtain ⟨database, t, hselected, ht, hall⟩ := Ledger.exists_of_perform_select hshown
  have hwell := hl.table? ht
  cases hwell.select_all.symm.trans hall
  refine ⟨⟨shown.header, shown.meeting condition⟩, ?_, ?_, ?_, ?_⟩
  · rw [(hl.agree_execute hs _).reply, Ledger.execute_of_ofText hread,
      Ledger.perform_select_eq hselected ht (hwell.select_all_eq_meeting condition)]
  · exact congrArg (Table.mk shown.header) (Table.meeting_eq_filter_mem shown condition)
  · obtain ⟨hdone, hrows⟩ :=
      hl.rows_after_delete (hasks.ofText_delete hname) hquery hselected ht
    obtain ⟨hreply, hafter⟩ := hl.replies_eq hs _ _
    exact ⟨hreply.trans hdone, hafter.trans hrows⟩
  · intro sets tokens assignments hsets hassignments updated haccepted
    have hupdate := hasks.ofText_update hname hsets hassignments
    obtain ⟨hreply, hafter⟩ := hl.replies_eq hs
      ("UPDATE " ++ table ++ " SET " ++ sets ++ " WHERE " ++ rows ++ ";")
      ("SELECT * FROM " ++ table ++ ";")
    rw [hreply] at haccepted
    obtain ⟨changed, hrows, hchanged⟩ :=
      hl.rows_after_update hupdate hquery hselected ht haccepted
    exact ⟨changed, hafter.trans hrows, hchanged⟩

/-- A column that is named twice holds the last value, also where the condition looks at
it. -/
theorem rows_where_agree_named_twice :
    let s := ((start Catalog.empty).executeAll
      ["CREATE DATABASE d;", "USE d;", "CREATE TABLE t(c);", "INSERT INTO t VALUES ('x');",
        "INSERT INTO t VALUES ('y');"]).2
    (s.execute "SELECT * FROM t WHERE c == 'x';").1 = .rows ⟨["id", "c"], [["1", "x"]]⟩ ∧
      ((s.execute "DELETE FROM t WHERE c == 'x';").2.execute "SELECT * FROM t;").1 =
        .rows ⟨["id", "c"], [["2", "y"]]⟩ ∧
      ((s.execute "UPDATE t SET c = 'v', C = 'w' WHERE c == 'x';").2.execute
        "SELECT * FROM t;").1 = .rows ⟨["id", "c"], [["1", "w"], ["2", "y"]]⟩ := by
  intro s
  have hread : Statement.ofText ("SELECT * FROM " ++ "t" ++ " WHERE " ++ "c == 'x'" ++ ";") =
      .ok (.select "t" .all (some (.test "c" "==" "x"))) := by decide +kernel
  have hshown : (s.execute ("SELECT * FROM " ++ "t" ++ ";")).1 =
      .rows ⟨["id", "c"], [["1", "x"], ["2", "y"]]⟩ := by decide +kernel
  have hfirst : (s.execute ("SELECT * FROM " ++ "t" ++ " WHERE " ++ "c == 'x'" ++ ";")).1 =
      .rows ⟨["id", "c"], [["1", "x"]]⟩ := by decide +kernel
  have hsets : Token.ofText "c = 'v', C = 'w'" =
      .ok ([⟨.identifier, "c"⟩, ⟨.symbol, "="⟩, ⟨.string, "'v'"⟩] ++ ⟨.symbol, ","⟩ ::
        [⟨.identifier, "C"⟩, ⟨.symbol, "="⟩, ⟨.string, "'w'"⟩]) := by decide +kernel
  have hsmall : Assigned [⟨.identifier, "c"⟩, ⟨.symbol, "="⟩, ⟨.string, "'v'"⟩] ("c", "'v'") :=
    .intro ⟨rfl, by decide +kernel, rfl⟩ rfl rfl (.plain (by decide) (by decide +kernel))
  have hcapital : Assigned [⟨.identifier, "C"⟩, ⟨.symbol, "="⟩, ⟨.string, "'w'"⟩] ("C", "'w'") :=
    .intro ⟨rfl, by decide +kernel, rfl⟩ rfl rfl (.plain (by decide) (by decide +kernel))
  have haccepted : (s.execute ("UPDATE " ++ "t" ++ " SET " ++ "c = 'v', C = 'w'" ++ " WHERE " ++
      "c == 'x'" ++ ";")).1.isAccepted = true := by decide +kernel
  obtain ⟨found, hfound, _, ⟨_, hremoved⟩, hupdated⟩ := rows_where_agree _ hread hshown
  obtain ⟨changed, hrows, rfl, _⟩ := hupdated "c = 'v', C = 'w'" _
    [("c", "'v'"), ("C", "'w'")] hsets (.more hsmall rfl (.last hcapital)) haccepted
  cases hfirst.symm.trans hfound
  refine ⟨hfirst, hremoved.trans ?_, hrows.trans ?_⟩
  · decide +kernel
  · decide +kernel

end Session

end TextTables
