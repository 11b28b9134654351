import TextTables.Proofs.Session.Matching
import TextTables.Proofs.Session.Rewriting
import TextTables.Proofs.Table.Columns

/-!
# Sessions that add and take out columns

An alteration keeps the cells of the other columns in every row, and it makes all rows as
wide as the header as long as none was wider before.  In the tables that statements make, all
rows are as wide as the header, so there a query that names other columns is answered as
before, and a column that is added can be taken out again without a trace.
-/

namespace TextTables

open Text (sameWord)

namespace Ledger

variable {l next : Ledger} {database name other : String} {t : Table}

/-- Where a table of the selected database was changed, it was there. -/
theorem exists_of_change_eq_ok {f : Table → Except Fault Table} (h : l.change name f = .ok next) :
    ∃ database t changed, l.selected = some database ∧ l.table? database name = some t ∧
      f t = .ok changed ∧ next.selected = some database ∧
      next.table? database name = some changed := by
  obtain ⟨t, htable, hrest⟩ := exists_of_bind_eq_ok h
  obtain ⟨changed, hchanged, _⟩ := exists_of_bind_eq_ok hrest
  obtain ⟨database, hselected, ht⟩ := exists_of_table_eq_ok htable
  obtain ⟨reached, hreached, hselected', ht'⟩ := exists_change_eq_ok hselected ht hchanged
  cases hreached.symm.trans h
  exact ⟨database, t, changed, hselected, ht, hchanged, hselected', ht'⟩

/-- A table is found under its name in any spelling. -/
theorem table?_congr (h : storedName other = storedName name) (database : String) :
    l.table? database other = l.table? database name := by
  rw [table?, table?, h]

/-- A change that is undone leaves no trace. -/
theorem exists_change_change_eq_ok (hselected : l.selected = some database)
    (ht : l.table? database name = some t) (hother : storedName other = storedName name)
    {f g : Table → Except Fault Table} {changed : Table} (hchanged : f t = .ok changed)
    (hback : g changed = .ok t) :
    ∃ next, l.change name f = .ok next ∧ next.change other g = .ok l := by
  obtain ⟨tables, htables, hname⟩ := Option.bind_eq_some_iff.mp ht
  obtain ⟨next, hnext, hlast⟩ :=
    change_change_eq_ok hselected htables hname hother hchanged hback
  rw [Dict.insert_self hname, put, Dict.insert_self htables] at hlast
  exact ⟨next, hnext, hlast⟩

/-- A query that names other columns only is answered as before an alteration. -/
theorem WellFormed.select_after_alter (hl : l.WellFormed) {change : Alteration} {column : String}
    {names : List String} {condition : Option Condition}
    (hnext : l.change name (fun t => t.alter change column) = .ok next)
    (hother : storedName other = storedName name)
    (hnames : ∀ name ∈ names, sameWord name column = false)
    (htests : ∀ tested ∈ condition, ∀ leaf ∈ tested.tests,
      sameWord leaf.column column = false) :
    next.select other (.columns names) condition = l.select other (.columns names) condition := by
  obtain ⟨database, t, changed, hselected, ht, hchanged, hselected', ht'⟩ :=
    exists_of_change_eq_ok hnext
  have hwidth : ∀ row ∈ t.rows, t.width ≤ row.length :=
    fun row hrow => ((hl.table? ht).row_length row hrow).ge
  have halters := (Table.alter_eq_ok_iff.mp hchanged).2
  rw [← table?_congr hother] at ht ht'
  rw [select, select, table_of_table? hselected ht, table_of_table? hselected' ht', ok_bind,
    ok_bind, halters.select_columns_eq hwidth hnames htests]

theorem WellFormed.reply_after_alter (hl : l.WellFormed) {text query : String}
    {change : Alteration} {column : String} {names : List String} {condition : Option Condition}
    (hread : Statement.ofText text = .ok (.alter name change column))
    (hquery : Statement.ofText query = .ok (.select other (.columns names) condition))
    (hother : storedName other = storedName name)
    (hnames : ∀ name ∈ names, sameWord name column = false)
    (htests : ∀ tested ∈ condition, ∀ leaf ∈ tested.tests,
      sameWord leaf.column column = false) :
    ((l.execute text).2.execute query).1 = (l.execute query).1 := by
  cases hnext : l.change name fun t => t.alter change column with
  | error fault =>
      have hrefused : l.execute text = (.refused fault, l) := by
        rw [execute_of_ofText hread, perform, step, hnext]
        rfl
      rw [hrefused]
  | ok next =>
      have hselect := hl.select_after_alter hnext hother hnames htests
      rw [execute_of_change hread rfl hnext, execute_of_ofText hquery, execute_of_ofText hquery,
        perform, perform, step, step, hselect]
      cases l.select other (.columns names) condition with
      | error fault => rfl
      | ok shown => rfl

end Ledger

namespace Session

/-- **An alteration does to each row what it should, as long as no row is too wide.**  Over
every store and whatever the lines of a table are, an alteration that is carried out keeps
the other columns, their headings and the cells under them, `NULL` where a row was too
short.  Afterwards all rows are as wide as the header exactly if none was wider before, and
a column that is added is `NULL` in all of them exactly if none had anything else behind the
last column.  If a column is left, the table is read again as it was written, without rows
of one empty cell. -/
theorem altered_row_by_row {σ : Type} [Store σ] (s : Session σ) {text table column : String}
    {change : Alteration} (hread : Statement.ofText text = .ok (.alter table change column))
    (haccepted : (s.execute text).1.isAccepted = true) :
    ∃ t changed, s.Rewrites (s.execute text).2 table t changed ∧
      t.IsAltered change column changed ∧
      ((∀ row ∈ changed.rows, row.length = changed.width) ↔
        ∀ row ∈ t.rows, row.length ≤ t.width) ∧
      (change = .add → ((∀ row ∈ changed.rows, row[t.width]? = some Row.null) ↔
        ∀ row ∈ t.rows, Row.cellAt row t.width = Row.null)) ∧
      (changed.header ≠ [] → Table.ofLines? changed.toLines =
        some { changed with rows := changed.rows.filter (· ≠ [""]) }) := by
  obtain ⟨t, changed, hchanged, hrewrites⟩ :=
    exists_rewrites_of_isAccepted hread rfl haccepted
  have halters := (Table.alter_eq_ok_iff.mp hchanged).2
  have haltered := halters.isAltered
  refine ⟨t, changed, hrewrites, haltered, haltered.forall_length_eq_iff, ?_, ?_⟩
  · rintro rfl
    exact haltered.forall_null_iff
  · obtain ⟨_, _, _, hlines, _⟩ := hrewrites
    obtain ⟨hheader, hrows⟩ := Table.tabFree_of_ofLines? hlines
    have hname : Token.isName column = true := (Statement.wellRead_of_ofText hread).admissible
    exact halters.ofLines?_toLines (Text.foreign_tab.freeOf_of_isName hname) hheader hrows

/-- A row that is too short is filled up when a column is taken out of it. -/
theorem altered_row_by_row_short :
    let s : Session Catalog := ⟨⟨Dict.empty.insert "d" (Dict.empty.insert "t"
      ["id\tname\tmark", "1\tSimon", "2\tSion\t55"])⟩, some "d", .empty⟩
    (s.execute "ALTER TABLE t DROP name;").1.isAccepted = true ∧
      ∃ t changed, s.Rewrites (s.execute "ALTER TABLE t DROP name;").2 "t" t changed ∧
        ∀ row ∈ changed.rows, row.length = changed.width := by
  intro s
  have hread : Statement.ofText "ALTER TABLE t DROP name;" = .ok (.alter "t" .drop "name") := by
    decide +kernel
  have haccepted : (s.execute "ALTER TABLE t DROP name;").1.isAccepted = true := by
    decide +kernel
  have hfound : Table.ofLines? (Store.read s.store "d" "t") =
      some ⟨["id", "name", "mark"], [["1", "Simon"], ["2", "Sion", "55"]]⟩ := by
    decide +kernel
  obtain ⟨t, changed, hrewrites, _, hexact, _⟩ := altered_row_by_row s hread haccepted
  refine ⟨haccepted, t, changed, hrewrites, hexact.mpr ?_⟩
  obtain ⟨database, _, hselected, hlines, _⟩ := hrewrites
  cases hselected
  cases hfound.symm.trans hlines
  decide

/-- A row that is too wide stays so, and a column that is added shows what stood in it
behind the last column. -/
theorem altered_row_too_wide :
    let s : Session Catalog := ⟨⟨Dict.empty.insert "d" (Dict.empty.insert "t"
      ["id\tc", "1\ta\tb"])⟩, some "d", .empty⟩
    (s.execute "ALTER TABLE t ADD e;").1 = .done ∧
      Store.read (s.execute "ALTER TABLE t ADD e;").2.store "d" "t" =
        ["id\tc\te", "1\ta\tb\tNULL"] ∧
      (Row.ofLine "1\ta\tb\tNULL").length ≠ (Row.ofLine "id\tc\te").length ∧
      Row.under? (Row.ofLine "id\tc\te") (Row.ofLine "1\ta\tb\tNULL") "e" = some "b" := by
  decide +kernel

/-- **Alterations are local.**  In every state that texts lead to, a query of a table that
names its columns, and none of them nor of those in its condition is the one that is altered,
is answered after the alteration as before, also where it is refused.  Every column but the
key can be taken out.  A column that is not there can be added, and where it is taken out
again, under its name in any case, the store is what it was, line by line. -/
theorem alterations_are_local (texts : List String) (name column : String) :
    let s := ((start Catalog.empty).executeAll texts).2
    (∀ text change query other names condition,
      Statement.ofText text = .ok (.alter name change column) →
      Statement.ofText query = .ok (.select other (.columns names) condition) →
      storedName other = storedName name → (∀ shown ∈ names, sameWord shown column = false) →
      (∀ tested ∈ condition, ∀ leaf ∈ tested.tests, sameWord leaf.column column = false) →
      ((s.execute text).2.execute query).1 = (s.execute query).1) ∧
    ∀ database t, s.selected = some database →
      Table.ofLines? (Store.read s.store database name) = some t →
      (∀ text place, Statement.ofText text = .ok (.alter name .drop column) →
        t.columnIndex? column = some place → sameWord column Table.keyColumn = false →
        (s.execute text).1 = .done) ∧
      ∀ text, Statement.ofText text = .ok (.alter name .add column) →
        t.columnIndex? column = none →
        (s.execute text).1 = .done ∧
        ∀ back other again, Statement.ofText back = .ok (.alter other .drop again) →
          storedName other = storedName name → sameWord column again = true →
          ((s.execute text).2.execute back).1 = .done ∧
            ((s.execute text).2.execute back).2.store = s.store := by
  intro s
  have hl := Ledger.wellFormed_empty.afterAll texts
  have hs := Ledger.wellFormed_empty.shownBy_afterAll Ledger.shownBy_start texts
  refine ⟨?_, fun database t hselected hlines => ?_⟩
  · intro text change query other names condition hread hquery hother hnames htests
    rw [(hl.replies_eq hs text query).2, (hl.agree_execute hs query).reply]
    exact hl.reply_after_alter hread hquery hother hnames htests
  · rw [hs.selected] at hselected
    rw [hs.store, Ledger.read_toCatalog, hl.ofLines?_linesOf] at hlines
    refine ⟨fun text place hread hplace hkey => ?_, fun text hread hnew => ⟨?_, ?_⟩⟩
    · have hdropped := Table.alter_eq_ok_iff.mpr ⟨hkey, .drop hplace⟩
      obtain ⟨next, hnext, _⟩ := Ledger.exists_change_eq_ok
        (f := fun t => t.alter .drop column) hselected hlines hdropped
      rw [(hl.agree_execute hs text).reply, Ledger.execute_of_change hread rfl hnext]
    · obtain ⟨added, hadded, _⟩ :=
        (hl.table? hlines).alter_add_drop hnew (Text.sameWord_refl column)
      obtain ⟨next, hnext, _⟩ := Ledger.exists_change_eq_ok
        (f := fun t => t.alter .add column) hselected hlines hadded
      rw [(hl.agree_execute hs text).reply, Ledger.execute_of_change hread rfl hnext]
    · intro back other again hback hother hsame
      obtain ⟨added, hadded, hdropped⟩ := (hl.table? hlines).alter_add_drop hnew hsame
      obtain ⟨next, hnext, hlast⟩ := Ledger.exists_change_change_eq_ok
        (f := fun t => t.alter .add column) (g := fun t => t.alter .drop again)
        hselected hlines hother hadded hdropped
      obtain ⟨_, hshown⟩ := hl.agree_execute hs text
      have hnextWell := hl.execute text
      rw [Ledger.execute_of_change hread rfl hnext] at hshown hnextWell
      obtain ⟨hreply, hshown'⟩ := hnextWell.agree_execute hshown back
      rw [Ledger.execute_of_change hback rfl hlast] at hreply hshown'
      exact ⟨hreply, hshown'.store.trans hs.store.symm⟩

/-- A column between two others is taken out, and another one is added and taken out. -/
theorem alterations_are_local_between :
    let s := ((start Catalog.empty).executeAll ["CREATE DATABASE d;", "USE d;",
      "CREATE TABLE t(a, b, c);", "INSERT INTO t VALUES (1, 2, 3);"]).2
    (s.execute "SELECT c, A FROM T WHERE C == 3;").1 = .rows ⟨["c", "a"], [["3", "1"]]⟩ ∧
      (s.execute "ALTER TABLE t DROP b;").1 = .done ∧
      ((s.execute "ALTER TABLE t DROP b;").2.execute "SELECT c, A FROM T WHERE C == 3;").1 =
        .rows ⟨["c", "a"], [["3", "1"]]⟩ ∧
      ((s.execute "ALTER TABLE t ADD e;").2.execute "ALTER TABLE T DROP E;").2.store =
        s.store := by
  intro s
  have hshown : (s.execute "SELECT c, A FROM T WHERE C == 3;").1 =
      .rows ⟨["c", "a"], [["3", "1"]]⟩ := by decide +kernel
  have hfound : Table.ofLines? (Store.read s.store "d" "t") =
      some ⟨["id", "a", "b", "c"], [["1", "1", "2", "3"]]⟩ := by decide +kernel
  have hdrop : Statement.ofText "ALTER TABLE t DROP b;" = .ok (.alter "t" .drop "b") := by
    decide +kernel
  have hquery : Statement.ofText "SELECT c, A FROM T WHERE C == 3;" =
      .ok (.select "T" (.columns ["c", "A"]) (some (.test "C" "==" "3"))) := by decide +kernel
  have hadd : Statement.ofText "ALTER TABLE t ADD e;" = .ok (.alter "t" .add "e") := by
    decide +kernel
  have hback : Statement.ofText "ALTER TABLE T DROP E;" = .ok (.alter "T" .drop "E") := by
    decide +kernel
  have htable : storedName "T" = storedName "t" := by decide +kernel
  have hselected : s.selected = some "d" := by decide +kernel
  have hplace : Table.columnIndex? ⟨["id", "a", "b", "c"], [["1", "1", "2", "3"]]⟩ "b" =
      some 2 := by decide +kernel
  have hnew : Table.columnIndex? ⟨["id", "a", "b", "c"], [["1", "1", "2", "3"]]⟩ "e" =
      none := by decide +kernel
  obtain ⟨hlocal, hthere⟩ := alterations_are_local ["CREATE DATABASE d;", "USE d;",
    "CREATE TABLE t(a, b, c);", "INSERT INTO t VALUES (1, 2, 3);"] "t" "b"
  obtain ⟨_, hthere'⟩ := alterations_are_local ["CREATE DATABASE d;", "USE d;",
    "CREATE TABLE t(a, b, c);", "INSERT INTO t VALUES (1, 2, 3);"] "t" "e"
  have hsame := hlocal _ _ _ _ _ _ hdrop hquery htable (by decide +kernel) (by decide +kernel)
  obtain ⟨hdropped, _⟩ := hthere "d" _ hselected hfound
  obtain ⟨_, hadded⟩ := hthere' "d" _ hselected hfound
  obtain ⟨_, hundone⟩ := hadded _ hadd hnew
  have hrestored := (hundone _ _ _ hback htable (by decide +kernel)).2
  -- Under its name the state would be computed where the two stores are compared.
  subst s
  exact ⟨hshown, hdropped _ _ hdrop hplace (by decide +kernel), hsame.trans hshown, hrestored⟩

end Session

end TextTables
