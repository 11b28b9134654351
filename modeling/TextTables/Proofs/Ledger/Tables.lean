import TextTables.Proofs.Dictionary
import TextTables.Proofs.Ledger
import TextTables.Proofs.Statement.Admissible
import TextTables.Proofs.Table.Cells

/-!
# What statements keep in a ledger

What holds of every table of a ledger goes on to hold as long as it holds of each table
that a statement makes: a statement changes one table at most, and only by an operation on
this table.  Replies show the result of an operation on tables, or they name a cause.
`Keeps` says of a statement that its operations are as wanted, and one step lemma carries
that through the ledger.
-/

namespace TextTables

open Text (FreeOf Foreign)

/-- A reply that does not hold the character in anything that it repeats. -/
def Reply.Avoids (c : Char) : Reply → Prop
  | .done => True
  | .rows found => found.Avoids c
  | .refused cause => cause.Avoids c

/-- The tables that the statement makes of tables with the property have it too.  What it
shows of them does not hold the character, and neither does what it says if it is
refused. -/
def Statement.Keeps (c : Char) (P : Table → Prop) : Statement → Prop
  | use _ | createDatabase _ | dropTable _ | dropDatabase _ => True
  | createTable _ columns => P ⟨Table.keyColumn :: columns, []⟩
  | insert _ values =>
    Satisfies (Fault.Avoids c) (fun _ => True) (Table.headerOf values) ∧
      ∀ t, P t → Satisfies (Fault.Avoids c) P (t.insert values)
  | select _ columns condition =>
    ∀ t, P t → Satisfies (Fault.Avoids c) (Table.Avoids c) (t.select columns condition)
  | update _ assignments condition =>
    ∀ t, P t → Satisfies (Fault.Avoids c) P (t.update assignments condition)
  | delete _ condition => ∀ t, P t → P (t.delete condition)
  | alter _ change column => ∀ t, P t → Satisfies (Fault.Avoids c) P (t.alter change column)
  | join left right leftColumn rightColumn => ∀ t u, P t → P u →
      Satisfies (Fault.Avoids c) (Table.Avoids c) (t.join u left right leftColumn rightColumn)

/-- A statement without the character in its values brings it into no table and no reply. -/
theorem Statement.Admissible.keeps_avoids {c : Char} (hc : Foreign c) {statement : Statement}
    (h : statement.Admissible c) (hnames : ∀ name ∈ statement.names, Token.isName name = true) :
    statement.Keeps c (Table.Avoids c) := by
  cases statement with
  | createTable name columns =>
      refine Table.avoids_mk_nil fun d hd => Row.Avoids.cons (fun column hcolumn => ?_) ?_
      · exact hd.freeOf_of_isName (h.1 column hcolumn)
      · exact hd.freeOf_of_isName (by decide)
  | insert name values =>
      exact ⟨Table.satisfies_headerOf h, fun t ht => ht.insert hc h⟩
  | select name columns condition =>
      intro t ht
      refine ht.select hc ?_ condition
      rintro names rfl column hcolumn
      exact hc.freeOf_of_isName (h column hcolumn).isName
  | update name assignments condition =>
      have hvalues := fun assignment hmem => (h assignment hmem).2
      exact fun t ht => ht.update hc hvalues condition
  | delete name condition => exact fun t ht => ht.delete condition
  | alter name change column => exact fun t ht => ht.alter hc h change
  | join left right leftColumn rightColumn =>
      have hleft := hnames left List.mem_cons_self
      have hright := hnames right (List.mem_cons_of_mem _ (List.mem_singleton_self _))
      exact fun t u ht hu => ht.join hc hu hleft hright leftColumn rightColumn
  | use | createDatabase | dropTable | dropDatabase => trivial

namespace Ledger

/-- Every table has the property, under whatever key it is kept, and what is selected has
the name of a database. -/
structure Every (P : Table → Prop) (l : Ledger) : Prop where
  tables : ∀ key tables, l.databases.get? key = some tables →
    ∀ name t, tables.get? name = some t → P t
  selected : ∀ database ∈ l.selected, Token.isName database = true

variable {c : Char} {P : Table → Prop} {l : Ledger} {database name : String}

theorem every_empty : empty.Every P where
  tables key tables htables := by cases htables
  selected database hdatabase := by cases hdatabase

/-! ## Finding tables -/

theorem Every.table? (h : l.Every P) {t : Table} (ht : l.table? database name = some t) :
    P t := by
  unfold Ledger.table? at ht
  obtain ⟨tables, htables, hname⟩ := Option.bind_eq_some_iff.mp ht
  exact h.tables _ tables htables _ t hname

theorem Every.current (h : l.Every P) :
    Satisfies (Fault.Avoids c) (fun database => Token.isName database = true) l.current := by
  unfold Ledger.current
  split
  · next database hselected => exact .ok (h.selected database hselected)
  · exact .error (Fault.avoids_of_words_eq_nil nofun rfl)

theorem Every.table (h : l.Every P) (hname : FreeOf c name) :
    Satisfies (Fault.Avoids c) P (l.table name) := by
  refine h.current.bind fun database _ => ?_
  split
  · next t ht => exact .ok (h.table? ht)
  · exact .error (Fault.avoids_of_words_eq_singleton nofun rfl hname)

/-! ## Changing databases -/

/-- A database may be given other tables with the property. -/
theorem Every.put (h : l.Every P) {tables : Dict Table}
    (htables : ∀ name t, tables.get? name = some t → P t) :
    (l.put database tables).Every P := by
  refine ⟨fun key found hfound => ?_, h.selected⟩
  rw [Ledger.put, Dict.get?_insert] at hfound
  split at hfound
  · cases hfound
    exact htables
  · exact h.tables key found hfound

theorem Every.use (hc : Foreign c) (h : l.Every P) (hname : Token.isName database = true) :
    Satisfies (Fault.Avoids c) (Every P) (l.use database) := by
  have hfree := hc.freeOf_of_isName hname
  unfold Ledger.use
  split
  · refine .ok ⟨h.tables, fun selected hselected => ?_⟩
    rwa [← Option.mem_some.mp hselected]
  · exact .error (Fault.avoids_of_words_eq_singleton nofun rfl hfree)

theorem Every.createDatabase (h : l.Every P) (hname : FreeOf c database) :
    Satisfies (Fault.Avoids c) (Every P) (l.createDatabase database) := by
  unfold Ledger.createDatabase
  split
  · exact .error (Fault.avoids_of_words_eq_singleton nofun rfl hname)
  · refine .ok (h.put fun name t ht => ?_)
    cases ht

theorem Every.dropDatabase (h : l.Every P) (hname : FreeOf c database) :
    Satisfies (Fault.Avoids c) (Every P) (l.dropDatabase database) := by
  unfold Ledger.dropDatabase eraseDatabase
  split
  · refine .ok ⟨fun key tables htables => ?_, fun selected hselected => ?_⟩
    · simp only [deselect, Dict.get?_erase] at htables
      split at htables
      · cases htables
      · exact h.tables key tables htables
    · exact h.selected selected (Option.mem_filter_iff.mp hselected).1
  · exact .error (Fault.avoids_of_words_eq_singleton nofun rfl hname)

/-! ## Changing tables -/

theorem Every.insertTable (h : l.Every P) {tables : Dict Table}
    (htables : l.tables? database = some tables) {t : Table} (ht : P t) :
    (l.put database (tables.insert (storedName name) t)).Every P := by
  refine h.put fun other found hfound => ?_
  rw [Dict.get?_insert] at hfound
  split at hfound
  · cases hfound
    exact ht
  · exact h.tables _ tables htables other found hfound

theorem Every.createTable (hc : Foreign c) (h : l.Every P) {columns : List String}
    (hcolumns : P ⟨Table.keyColumn :: columns, []⟩) (hname : FreeOf c name) :
    Satisfies (Fault.Avoids c) (Every P) (l.createTable name columns) := by
  refine h.current.bind fun database hdatabase => ?_
  have hfree := hc.freeOf_of_isName hdatabase
  unfold createTableIn
  split
  · exact .error (Fault.avoids_of_words_eq_singleton nofun rfl hfree)
  · next tables htables =>
      split
      · exact .error (Fault.avoids_of_words_eq_singleton nofun rfl hname)
      · exact .ok (h.insertTable htables hcolumns)

theorem Every.replaceIn (h : l.Every P) {t : Table} (ht : P t) (hname : FreeOf c name) :
    Satisfies (Fault.Avoids c) (Every P) (l.replaceIn database name t) := by
  unfold Ledger.replaceIn
  split
  · exact .error (Fault.avoids_of_words_eq_singleton nofun rfl hname)
  · next tables htables =>
      split
      · exact .ok (h.insertTable htables ht)
      · exact .error (Fault.avoids_of_words_eq_singleton nofun rfl hname)

theorem Every.dropTable (h : l.Every P) (hname : FreeOf c name) :
    Satisfies (Fault.Avoids c) (Every P) (l.dropTable name) := by
  refine h.current.bind fun database _ => ?_
  unfold dropTableIn
  split
  · exact .error (Fault.avoids_of_words_eq_singleton nofun rfl hname)
  · next tables htables =>
      split
      · refine .ok (h.put fun other found hfound => ?_)
        rw [Dict.get?_erase] at hfound
        split at hfound
        · cases hfound
        · exact h.tables _ tables htables other found hfound
      · exact .error (Fault.avoids_of_words_eq_singleton nofun rfl hname)

/-- A table may be changed by what keeps the property. -/
theorem Every.change (h : l.Every P) {f : Table → Except Fault Table}
    (hf : ∀ t, P t → Satisfies (Fault.Avoids c) P (f t)) (hname : FreeOf c name) :
    Satisfies (Fault.Avoids c) (Every P) (l.change name f) := by
  refine (h.table hname).bind fun found hfound => ?_
  refine (hf found hfound).bind fun changed hchanged => ?_
  refine h.current.bind fun database _ => ?_
  exact h.replaceIn hchanged hname

theorem Every.insert (h : l.Every P) {values : List String}
    (hvalues : (Statement.insert name values).Keeps c P) (hname : FreeOf c name) :
    Satisfies (Fault.Avoids c) (Every P) (l.insert name values) := by
  refine h.current.bind fun database _ => ?_
  split
  · next found hfound =>
      refine (hvalues.2 found (h.table? hfound)).bind fun changed hchanged => ?_
      exact h.replaceIn hchanged hname
  · refine hvalues.1.bind fun _ _ => ?_
    exact .error (Fault.avoids_of_words_eq_singleton nofun rfl hname)

theorem Every.join (h : l.Every P) {left right leftColumn rightColumn : String}
    (hkeeps : (Statement.join left right leftColumn rightColumn).Keeps c P) :
    Satisfies (Fault.Avoids c) (Table.Avoids c) (l.join left right leftColumn rightColumn) := by
  refine h.current.bind fun database _ => ?_
  split
  · next leftTable rightTable hleft hright =>
      exact hkeeps leftTable rightTable (h.table? hleft) (h.table? hright)
  · exact .error (Fault.avoids_of_words_eq_nil nofun rfl)

/-! ## Statements -/

/-- What is asked of an answer to a statement. -/
def Proper (c : Char) (P : Table → Prop) (answer : Except Fault (Reply × Ledger)) : Prop :=
  Satisfies (Fault.Avoids c) (fun next => next.1.Avoids c ∧ next.2.Every P) answer

theorem proper_done {answer : Except Fault Ledger}
    (h : Satisfies (Fault.Avoids c) (Every P) answer) :
    Proper c P (do return (Reply.done, ← answer)) :=
  h.bind fun _ hnext => .ok ⟨trivial, hnext⟩

/-- A query leaves the ledger as it was. -/
theorem Every.proper_rows (h : l.Every P) {answer : Except Fault Table}
    (hanswer : Satisfies (Fault.Avoids c) (Table.Avoids c) answer) :
    Proper c P (do return (Reply.rows (← answer), l)) :=
  hanswer.bind fun _ hfound => .ok ⟨hfound, h⟩

/-- **The step lemma.**  A statement that keeps the property is answered without the
character and leads to a ledger with the property. -/
theorem Every.step (hc : Foreign c) (h : l.Every P) {statement : Statement}
    (hnames : ∀ name ∈ statement.names, Token.isName name = true)
    (hkeeps : statement.Keeps c P) : Proper c P (l.step statement) := by
  have hfree : ∀ name ∈ statement.names, FreeOf c name :=
    fun name hname => hc.freeOf_of_isName (hnames name hname)
  cases statement with
  | use database => exact proper_done (h.use hc (hnames _ (List.mem_singleton_self _)))
  | createDatabase database =>
      exact proper_done (h.createDatabase (hfree _ (List.mem_singleton_self _)))
  | createTable name columns =>
      exact proper_done (h.createTable hc hkeeps (hfree _ (List.mem_singleton_self _)))
  | insert name values =>
      exact proper_done (h.insert hkeeps (hfree _ (List.mem_singleton_self _)))
  | select name columns condition =>
      have hname := hfree name (List.mem_singleton_self _)
      exact h.proper_rows ((h.table hname).bind hkeeps)
  | update name assignments condition =>
      exact proper_done (h.change hkeeps (hfree _ (List.mem_singleton_self _)))
  | delete name condition =>
      have hname := hfree name (List.mem_singleton_self _)
      exact proper_done (h.change (fun t ht => .ok (hkeeps t ht)) hname)
  | alter name change column =>
      exact proper_done (h.change hkeeps (hfree _ (List.mem_singleton_self _)))
  | dropTable name => exact proper_done (h.dropTable (hfree _ (List.mem_singleton_self _)))
  | dropDatabase database =>
      exact proper_done (h.dropDatabase (hfree _ (List.mem_singleton_self _)))
  | join left right leftColumn rightColumn => exact h.proper_rows (h.join hkeeps)

theorem Every.perform (hc : Foreign c) (h : l.Every P) {statement : Statement}
    (hnames : ∀ name ∈ statement.names, Token.isName name = true)
    (hkeeps : statement.Keeps c P) :
    (l.perform statement).1.Avoids c ∧ (l.perform statement).2.Every P := by
  have hstep := h.step hc hnames hkeeps
  unfold Ledger.perform
  split
  · next next hnext => exact hstep.of_eq_ok hnext
  · next fault hfault => exact ⟨hstep.of_eq_error hfault, h⟩

/-- A text without the character brings it into no table and no reply. -/
theorem Every.execute (hc : Foreign c) (h : l.Every (Table.Avoids c)) {text : String}
    (htext : FreeOf c text) :
    (l.execute text).1.Avoids c ∧ (l.execute text).2.Every (Table.Avoids c) := by
  have hread := Statement.satisfies_ofText hc htext
  unfold Ledger.execute
  split
  · exact ⟨Fault.avoids_of_words_eq_nil nofun rfl, h⟩
  split
  · next fault hfault => exact ⟨hread.of_eq_error hfault, h⟩
  · next statement hstatement =>
      have hwell := hread.of_eq_ok hstatement
      have hnames := fun name hname => (hwell.names name hname).isName
      exact h.perform hc hnames (hwell.admissible.keeps_avoids hc hnames)

end Ledger

end TextTables
