import TextTables.Proofs.Files.Walk
import TextTables.Proofs.Session.Runs
import TextTables.Proofs.Statement.Admissible
import TextTables.Proofs.Store.Catalog

/-!
# Names of databases and tables

Whatever is kept is kept under the lower case of a name that was read.  Where those
names are short enough to be names of files, they stay so as a session goes on.
-/

namespace TextTables

/-- A name of a database or a table that can be that of a directory or a file. -/
structure IsFileName (name : String) : Prop where
  isNameWord : Token.IsNameWord name
  short : name.utf8ByteSize ≤ FilePath.longestName

/-- What a file name is kept under. -/
def IsFileKey (key : String) : Prop :=
  ∃ name, IsFileName name ∧ key = storedName name

theorem IsFileName.isFileKey {name : String} (h : IsFileName name) :
    IsFileKey (storedName name) :=
  ⟨name, h, rfl⟩

theorem IsFileKey.isEntryName {key : String} (h : IsFileKey key) :
    FilePath.IsEntryName key := by
  obtain ⟨name, hname, rfl⟩ := h
  exact FilePath.isEntryName_storedName hname.isNameWord.isName hname.short

theorem IsFileName.isEntryName {name : String} (h : IsFileName name) :
    FilePath.IsEntryName (storedName name) :=
  h.isFileKey.isEntryName

/-- Every database and every table is kept under a file name. -/
abbrev Catalog.IsNamed (c : Catalog) : Prop :=
  c.Every IsFileKey fun name _ => IsFileKey name

theorem Catalog.IsNamed.isEntryName {c : Catalog} (h : c.IsNamed) :
    c.Every FilePath.IsEntryName fun name _ => FilePath.IsEntryName name :=
  h.mono (fun hkey => hkey.isEntryName) fun hname => hname.isEntryName

/-! ## Sessions -/

/-- A session that works with file names only. -/
structure Session.IsNamed (s : Session Catalog) : Prop where
  store : s.store.IsNamed
  selected : ∀ database, s.selected = some database → IsFileName database

open Session (IsNamed)

theorem Session.isNamed_start : (Session.start Catalog.empty).IsNamed where
  store := Catalog.every_empty
  selected := fun _ h => by cases h

namespace Action

open Attempt (Preserves preserves_modify)

theorem preserves_change {operation : Catalog → Outcome Catalog}
    (h : ∀ c, c.IsNamed → (operation c).2.IsNamed) : (change operation).Preserves IsNamed :=
  fun s hs => ⟨h s.store hs.store, hs.selected⟩

theorem preserves_put {name : String} (hname : IsFileName name) (lines : List String) :
    (put name lines : Action Catalog Unit).Preserves IsNamed :=
  readOnly_current.preserves.bind fun _ => preserves_change fun _ hc => hc.write hname.isFileKey

theorem preserves_use {database : String} (hdatabase : IsFileName database) :
    (use database : Action Catalog Unit).Preserves IsNamed := by
  refine Attempt.readOnly_state.preserves.bind fun s => ?_
  split
  · refine (Attempt.readOnly_ofExcept _).preserves.bind fun tables => ?_
    refine preserves_modify fun s hs => ⟨hs.store, ?_⟩
    intro selected hselected
    cases hselected
    exact hdatabase
  · exact (Attempt.readOnly_fail _).preserves

theorem preserves_createTable {name : String} (hname : IsFileName name)
    (columns : List String) :
    (createTable name columns : Action Catalog Unit).Preserves IsNamed := by
  refine readOnly_current.preserves.bind fun database => ?_
  refine (preserves_change fun c hc => hc.createTable hname.isFileKey).bind fun _ => ?_
  exact preserves_modify fun s hs => ⟨hs.store, hs.selected⟩

theorem preserves_dropTable (name : String) :
    (dropTable name : Action Catalog Unit).Preserves IsNamed := by
  refine readOnly_current.preserves.bind fun database => ?_
  refine (preserves_change fun c hc => hc.dropTable database name).bind fun _ => ?_
  refine preserves_modify fun s hs => ?_
  unfold Session.dropKnown
  split
  · exact hs
  · exact ⟨hs.store, hs.selected⟩

theorem preserves_dropDatabase (database : String) :
    (dropDatabase database : Action Catalog Unit).Preserves IsNamed := by
  refine (preserves_change fun c hc => hc.dropDatabase database).bind fun _ => ?_
  refine preserves_modify fun s hs => ?_
  unfold Session.dropDatabase
  simp only
  split
  · exact ⟨hs.store, hs.selected⟩
  · next selected hselected =>
      split
      · exact ⟨hs.store, fun _ h => by cases h⟩
      · exact ⟨hs.store, hs.selected⟩

theorem preserves_changeTable {name : String} (hname : IsFileName name)
    (f : Table → Except Fault Table) :
    (changeTable name f : Action Catalog Unit).Preserves IsNamed := by
  refine (readOnly_table name).preserves.bind fun found => ?_
  refine (Attempt.readOnly_ofExcept _).preserves.bind fun changed => ?_
  exact preserves_put hname changed.toLines

theorem preserves_insert {name : String} (hname : IsFileName name) (values : List String) :
    (insert name values : Action Catalog Unit).Preserves IsNamed := by
  refine (readOnly_lines name).preserves.bind fun found => ?_
  refine (Attempt.readOnly_ofExcept _).preserves.bind fun changed => ?_
  exact preserves_put hname changed

end Action

namespace Statement

open Attempt (Preserves)

theorem preserves_action {statement : Statement}
    (h : ∀ name ∈ statement.names, IsFileName name) :
    (action statement : Action Catalog Reply).Preserves IsNamed := by
  have hdone : ∀ _ : Unit, (pure Reply.done : Action Catalog Reply).Preserves IsNamed :=
    fun _ => (Attempt.readOnly_pure _).preserves
  cases statement with
  | use database => exact (Action.preserves_use (h database (by simp [names]))).bind hdone
  | createDatabase database =>
      refine Preserves.bind (Action.preserves_change fun c hc => ?_) hdone
      exact hc.createDatabase (h database (by simp [names])).isFileKey
  | createTable table columns =>
      exact (Action.preserves_createTable (h table (by simp [names])) columns).bind hdone
  | insert table values =>
      exact (Action.preserves_insert (h table (by simp [names])) values).bind hdone
  | select table columns condition => exact (readOnly_action rfl).preserves
  | update table assignments condition =>
      exact (Action.preserves_changeTable (h table (by simp [names])) _).bind hdone
  | delete table condition =>
      exact (Action.preserves_changeTable (h table (by simp [names])) _).bind hdone
  | alter table change column =>
      exact (Action.preserves_changeTable (h table (by simp [names])) _).bind hdone
  | dropTable table => exact (Action.preserves_dropTable table).bind hdone
  | dropDatabase database => exact (Action.preserves_dropDatabase database).bind hdone
  | join left right leftColumn rightColumn => exact (readOnly_action rfl).preserves

end Statement

namespace Session

/-- The names of databases and tables in a text can be those of directories and files. -/
def HasShortNames (text : String) : Prop :=
  ∀ statement, Statement.ofText text = .ok statement →
    ∀ name ∈ statement.names, name.utf8ByteSize ≤ FilePath.longestName

theorem HasShortNames.isFileName {text : String} (h : HasShortNames text)
    {statement : Statement} (hread : Statement.ofText text = .ok statement) :
    ∀ name ∈ statement.names, IsFileName name :=
  fun name hname =>
    ⟨(Statement.wellRead_of_ofText hread).names name hname, h statement hread name hname⟩

theorem IsNamed.perform {s : Session Catalog} (h : s.IsNamed) {statement : Statement}
    (hnames : ∀ name ∈ statement.names, IsFileName name) :
    (s.perform statement).2.IsNamed := by
  have hpreserved := Statement.preserves_action hnames s h
  unfold Session.perform
  split
  · next reply after hrun =>
      rw [hrun] at hpreserved
      exact hpreserved
  · next fault after hrun =>
      rw [hrun] at hpreserved
      exact ⟨hpreserved.store, h.selected⟩

theorem IsNamed.execute {s : Session Catalog} (h : s.IsNamed) {text : String}
    (hnames : HasShortNames text) : (s.execute text).2.IsNamed := by
  unfold Session.execute
  split
  · exact h
  · split
    · exact h
    · next statement hread => exact h.perform (hnames.isFileName hread)

theorem IsNamed.executeAll {s : Session Catalog} (h : s.IsNamed) {texts : List String}
    (hnames : ∀ text ∈ texts, HasShortNames text) : (s.executeAll texts).2.IsNamed :=
  executeAll_induction (P := IsNamed) (fun text htext _ hs => hs.execute (hnames text htext)) h

end Session

end TextTables
