import TextTables.Invocation.Execution
import TextTables.Proofs.Files.Opening
import TextTables.Proofs.Session.Restart

/-!
# Queries in a database

A command line may name the database that its query is executed in, and the name is put into
the text of a statement as it is given.  Whatever it is, that text selects a database or is
refused: it is no other statement, and not two.
-/

namespace TextTables

variable {σ : Type} [Store σ]

/-- A text that stands for a database of the store: its name, with nothing but blanks beside
it. -/
structure Store.Denotes (store : σ) (text name : String) : Prop where
  names : ∃ token, Token.ofText text = .ok [token] ∧ token.Names name
  databaseExists : Store.databaseExists store name = true

namespace Session

variable {s t : Session σ} {text name : String}

/-- A text that stands for no database of the store selects none. -/
theorem exists_execute_use_eq_refused (h : ∀ name, ¬Store.Denotes s.store text name) :
    ∃ fault, s.execute ("USE " ++ text ++ ";") = (.refused fault, s) := by
  cases hread : Statement.ofText ("USE " ++ text ++ ";") with
  | error fault =>
      rw [execute, hread]
      split
      · exact ⟨_, rfl⟩
      · exact ⟨fault, rfl⟩
  | ok statement =>
      obtain ⟨token, name, htoken, hname, rfl⟩ := Statement.ofText_use_eq_ok_iff.mp hread
      have hmissing : Store.databaseExists s.store name = false :=
        Bool.eq_false_iff.mpr fun hexists => h name ⟨⟨token, htoken, hname⟩, hexists⟩
      rw [execute_of_ofText hread, perform_use_of_missing hmissing]
      exact ⟨_, rfl⟩

theorem exists_query_eq_refused (h : ∀ name, ¬Store.Denotes s.store text name) :
    ∃ fault, ∀ query, s.query query (some text) = (.refused fault, s) := by
  obtain ⟨fault, hfault⟩ := exists_execute_use_eq_refused h
  refine ⟨fault, fun query => ?_⟩
  rw [Session.query, hfault]
  rfl

/-- In a database that the text stands for, a query is executed as in a session that has
selected it, whatever tables that session knows. -/
theorem query_of_denotes (h : Store.Denotes s.store text name) {tables : List String}
    (htables : Store.tables s.store name = .ok tables) (hstore : t.store = s.store)
    (hselected : t.selected = some name) (query : String) :
    (s.query query (some text)).1 = (t.execute query).1 ∧
      (s.query query (some text)).2.Agrees (t.execute query).2 := by
  obtain ⟨token, htoken, hname⟩ := h.names
  have hread := Statement.ofText_use_eq_ok_iff.mpr ⟨token, name, htoken, hname, rfl⟩
  have huse := (execute_of_ofText hread s).trans (perform_use h.databaseExists htables)
  rw [Session.query, huse]
  have hagrees : Agrees ⟨s.store, some name, s.known.insert (storedName name) tables⟩ t :=
    ⟨hstore.symm, hselected.symm⟩
  exact hagrees.execute query

end Session

namespace Workspace

/-- **A query in a database does nothing beside selecting it.**  Opening the root directory
adds directories at most, and nothing where it is there.  If the text that is given for a
database stands for one, every query is answered, and leaves the files, as in a session that
has selected this database.  Otherwise there is one refusal for all queries, and the files
stay as they were opened; and so they do where the root directory cannot be opened. -/
theorem query_in_database (w : Workspace) (settings : Settings) (text : String) :
    let root := w.path settings.storageDirectory
    let opened := Directory.openAt w.tree root
    w.tree.Grows opened.2 ∧
      (w.tree.isDirectory root = true → opened = (.ok ⟨w.tree, root⟩, w.tree)) ∧
      (∀ directory, opened.1 = .ok directory →
        (∀ name, Store.Denotes directory text name → ∀ known query,
          let s : Session Directory := ⟨directory, some name, known⟩
          w.query settings query (some text) =
            (.ok (s.execute query).1, { w with tree := (s.execute query).2.store.tree })) ∧
        ((∀ name, ¬Store.Denotes directory text name) → ∃ fault, ∀ query,
          w.query settings query (some text) =
            (.ok (.refused fault), { w with tree := opened.2 }))) ∧
      ∀ fault, opened.1 = .error fault → ∀ query,
        w.query settings query (some text) =
          (.error (.system fault), { w with tree := opened.2 }) := by
  intro root opened
  refine ⟨Directory.grows_openAt _ _, Directory.openAt_of_isDirectory, ?_, ?_⟩
  · intro directory hopened
    have hdirectory : opened = (.ok directory, directory.tree) :=
      Directory.openAt_eq_of_fst_eq_ok hopened
    have hquery : ∀ query, w.query settings query (some text) =
        (.ok ((Session.start directory).query query (some text)).1,
          { w with tree := ((Session.start directory).query query (some text)).2.store.tree }) := by
      intro query
      change Directory.openAt w.tree (w.path settings.storageDirectory) = _ at hdirectory
      rw [Workspace.query, hdirectory]
    refine ⟨fun name hname known query => ?_, fun hnone => ?_⟩
    · intro s
      obtain ⟨tables, htables⟩ :=
        Directory.exists_tables_of_databaseExists hname.databaseExists
      have hstart : Store.Denotes (Session.start directory).store text name := hname
      obtain ⟨hreply, hafter⟩ := Session.query_of_denotes (t := s) hstart htables rfl rfl query
      rw [hquery, hreply, hafter.store]
    · obtain ⟨fault, hfault⟩ :=
        Session.exists_query_eq_refused (s := Session.start directory) hnone
      refine ⟨fault, fun query => ?_⟩
      rw [hquery, hfault, hdirectory]
      rfl
  · intro fault hopened query
    have hfailed : Directory.openAt w.tree (w.path settings.storageDirectory) =
        (.error fault, opened.2) := Prod.ext hopened rfl
    rw [Workspace.query, hfailed]

/-- Blanks beside a name make no difference, and a second statement behind it is refused. -/
theorem query_in_database_by_name :
    let w : Workspace := ⟨.directory [("data", .directory [("d", .directory [("t",
      .file (Directory.content ["id\tc"]))])])], []⟩
    let settings : Settings := { (default : Settings) with storageDirectory := "data" }
    let s : Session Directory := ⟨⟨w.tree, w.path "data"⟩, some "d", .empty⟩
    (∀ query, w.query settings query (some " d ") =
        (.ok (s.execute query).1, { w with tree := (s.execute query).2.store.tree })) ∧
      ∃ fault, ∀ query,
        w.query settings query (some "d; DROP DATABASE d") = (.ok (.refused fault), w) := by
  intro w settings s
  have hthere : w.tree.isDirectory (w.path settings.storageDirectory) = true := by
    decide +kernel
  have hname : Store.Denotes s.store " d " "d" :=
    ⟨⟨⟨.identifier, "d"⟩, by decide +kernel, rfl, by decide +kernel, rfl⟩, by decide +kernel⟩
  have htokens : Token.ofText "d; DROP DATABASE d" = .ok [⟨.identifier, "d"⟩, ⟨.symbol, ";"⟩,
      ⟨.keyword, "DROP"⟩, ⟨.keyword, "DATABASE"⟩, ⟨.identifier, "d"⟩] := by
    decide +kernel
  have hnone : ∀ name, ¬Store.Denotes s.store "d; DROP DATABASE d" name := by
    rintro name ⟨⟨token, htoken, _⟩, _⟩
    cases htokens.symm.trans htoken
  obtain ⟨_, hopen, hnamed, _⟩ := query_in_database w settings " d "
  obtain ⟨_, _, hrefused, _⟩ := query_in_database w settings "d; DROP DATABASE d"
  have hopened := hopen hthere
  obtain ⟨fault, hfault⟩ := (hrefused s.store (congrArg Prod.fst hopened)).2 hnone
  refine ⟨fun query => (hnamed s.store (congrArg Prod.fst hopened)).1 "d" hname .empty query,
    fault, fun query => ?_⟩
  rw [hfault query, hopened]

end Workspace

end TextTables
