import TextTables.Proofs.Session.Selection
import TextTables.Proofs.Store.Entries

/-!
# What a session knows over any files

Over a catalog a session follows the tables of the database that it has selected.  Over files it
does so unless the directory of that database holds what no statement put there: a database that
is not dropped because of a directory in it has lost its files, and a table that is dropped takes
those with it, in the mind of the session, whose names differ in case.
-/

namespace TextTables

open Text (sameWord)

/-! ## Operations that fail -/

instance : Store.TransactionalTables Directory where
  write := by
    intro d database table lines fault h
    simp only [Store.write, Directory.write] at h ⊢
    split at h
    · next hfile =>
        rw [if_pos hfile]
        split at h
        · cases h
        · rfl
    · next hfile => rw [if_neg hfile]
  createTable := by
    intro d database table header fault h
    simp only [Store.createTable, Directory.createTable] at h ⊢
    split at h
    · next hmissing => rw [if_pos hmissing]
    · next hexists =>
        rw [if_neg hexists]
        split at h
        · next hthere => rw [if_pos hthere]
        · next hthere =>
            rw [if_neg hthere]
            split at h
            · cases h
            · rfl
  dropTable := by
    intro d database table fault h
    simp only [Store.dropTable, Directory.dropTable] at h ⊢
    split at h
    · next hfile =>
        rw [if_pos hfile]
        split at h
        · cases h
        · rfl
    · next hfile => rw [if_neg hfile]

namespace Session

section

variable {σ : Type} {s : Session σ} {database table : String} {store : σ}

theorem run_change {operation : σ → Outcome σ} {answer : Except Fault Unit}
    (h : operation s.store = (answer, store)) :
    (Action.change operation).run s = (answer, { s with store := store }) := by
  change ((operation s.store).1, { s with store := (operation s.store).2 }) = _
  rw [h]

/-! ## What is known after a change -/

theorem mem_knownTables_addKnown_iff (hselected : s.selected = some database) {name : String} :
    name ∈ (s.addKnown database table).knownTables ↔
      name ∈ s.knownTables ∨ name = storedName table := by
  simp only [knownTables, addKnown, hselected, Dict.get?_insert_self, Option.getD_some]
  split
  · next hknown =>
      refine ⟨Or.inl, ?_⟩
      rintro (hname | rfl)
      · exact hname
      · exact List.contains_iff_mem.mp hknown
  · rw [List.mem_append, List.mem_singleton]

theorem mem_knownTables_dropKnown_iff (hselected : s.selected = some database) {name : String} :
    name ∈ (s.dropKnown database table).knownTables ↔
      name ∈ s.knownTables ∧ sameWord name table = false := by
  cases hknown : s.known.get? (storedName database) with
  | none => simp [knownTables, dropKnown, hselected, hknown]
  | some tables => simp [knownTables, dropKnown, hselected, hknown]

variable [Store σ]

theorem perform_createDatabase (s : Session σ) (database : String) :
    (s.perform (.createDatabase database)).2 =
      { s with store := (Store.createDatabase s.store database).2 } := by
  have hchange : (Action.change fun store => Store.createDatabase store database).run s =
      ((Store.createDatabase s.store database).1,
        { s with store := (Store.createDatabase s.store database).2 }) := rfl
  rw [perform, Statement.action, Attempt.run_bind, hchange]
  cases (Store.createDatabase s.store database).1 with
  | error fault => rfl
  | ok => rfl

theorem perform_dropDatabase_of_ok
    (h : Store.dropDatabase s.store database = (.ok (), store)) :
    s.perform (.dropDatabase database) =
      (.done, dropDatabase { s with store := store } database) := by
  have hrun : (Action.dropDatabase database).run s =
      (.ok (), dropDatabase { s with store := store } database) := by
    rw [Action.dropDatabase, Attempt.run_bind, run_change h]
    rfl
  rw [perform, Statement.action, Attempt.run_bind, hrun]
  rfl

theorem perform_dropDatabase_of_error {fault : Fault}
    (h : Store.dropDatabase s.store database = (.error fault, store)) :
    s.perform (.dropDatabase database) = (.refused fault, { s with store := store }) := by
  rw [perform, Statement.action, Action.dropDatabase, Attempt.run_bind, Attempt.run_bind,
    run_change h]

theorem perform_dropTable_of_ok (hselected : s.selected = some database)
    (h : Store.dropTable s.store database table = (.ok (), store)) :
    s.perform (.dropTable table) =
      (.done, dropKnown { s with store := store } database table) := by
  have hchange : (Action.change fun store => Store.dropTable store database table).run s =
      (.ok (), { s with store := store }) := run_change h
  have hrun : (Action.dropTable table).run s =
      (.ok (), dropKnown { s with store := store } database table) := by
    rw [Action.dropTable, Attempt.run_bind, run_current hselected]
    simp only [Attempt.run_bind, hchange, Attempt.run_modify]
  rw [perform, Statement.action, Attempt.run_bind, hrun]
  rfl

/-- The database that is selected can be listed, and the known tables are those listed. -/
def KnowsListed (s : Session σ) : Prop :=
  ∀ database, s.selected = some database →
    ∃ tables, Store.tables s.store database = .ok tables ∧
      ∀ name, name ∈ s.knownTables ↔ name ∈ tables

theorem knowsListed_of_selected_eq_none (h : s.selected = none) : s.KnowsListed := by
  intro database hselected
  rw [h] at hselected
  cases hselected

theorem knowsListed_use {tables : List String}
    (h : Store.tables s.store database = .ok tables) :
    KnowsListed ⟨s.store, some database, s.known.insert (storedName database) tables⟩ := by
  intro other hother
  cases hother
  refine ⟨tables, h, fun name => ?_⟩
  simp [knownTables]

end

/-! ## Sessions over a root directory -/

/-- The session works on a root directory, in which every directory has entries in order, and
what it has selected is a name. -/
structure IsOver (r : Root) (s : Session Directory) : Prop where
  store : ∃ entries, Root.HasFolders entries ∧ s.store = r.holding entries
  isName : ∀ database, s.selected = some database → Token.isName database = true

/-- A statement after which the session does not know the tables of the selected database: it
drops that database, which has both a file and a directory in it, or it drops a table and there is
another file whose name is the same word. -/
def LosesTrack (s : Session Directory) : Statement → Prop
  | .dropDatabase database => ∃ selected place inside, s.selected = some selected ∧
      sameWord selected database = true ∧
      s.store.entries? selected = some (place, inside) ∧
      (∃ entry ∈ inside, Directory.isFileTree entry.2 = true) ∧
      ∃ entry ∈ inside, Directory.isFileTree entry.2 = false
  | .dropTable table => ∃ selected place inside, s.selected = some selected ∧
      s.store.entries? selected = some (place, inside) ∧
      storedName table ∈ Root.fileNames inside ∧
      ∃ name ∈ Root.fileNames inside, name ≠ storedName table ∧ sameWord name table = true
  | .use _ | .createDatabase _ | .createTable _ _ | .insert _ _ | .select _ _ _ | .update _ _ _
  | .delete _ _ | .alter _ _ _ | .join _ _ _ _ => False

open Root (HasDatabase HasFolders IsFolder fileNames)

variable {r : Root} {s t : Session Directory} {statement : Statement} {database : String}
  {entries after inside : List (String × FileTree)}

theorem knowsListed_iff (hstore : t.store = r.holding entries)
    (hselected : t.selected = some database) (h : HasDatabase entries database inside) :
    t.KnowsListed ↔ ∀ name, name ∈ t.knownTables ↔ name ∈ fileNames inside := by
  have htables : Store.tables t.store database = .ok (fileNames inside) := by
    rw [hstore, h.tables_eq]
  constructor
  · intro hknows
    obtain ⟨tables, hlisted, hmem⟩ := hknows database hselected
    cases htables.symm.trans hlisted
    exact hmem
  · intro hmem other hother
    cases hselected.symm.trans hother
    exact ⟨_, htables, hmem⟩

/-- The selected database is a directory, and its files are known. -/
theorem KnowsListed.exists_hasDatabase (h : s.KnowsListed) (hover : s.IsOver r)
    (hstore : s.store = r.holding entries) (hselected : s.selected = some database) :
    ∃ inside, HasDatabase entries database inside ∧
      ∀ name, name ∈ s.knownTables ↔ name ∈ fileNames inside := by
  obtain ⟨tables, htables, hmem⟩ := h database hselected
  rw [hstore] at htables
  obtain ⟨inside, hdatabase, rfl⟩ :=
    Root.exists_hasDatabase_of_tables_eq_ok (hover.isName database hselected) htables
  exact ⟨inside, hdatabase, hmem⟩

/-- What is done beside the selected database changes nothing of what is known. -/
theorem KnowsListed.of_beside (h : s.KnowsListed) (hover : s.IsOver r)
    (hstore : s.store = r.holding entries) (hafter : t.store = r.holding after)
    (hkept : ∀ database, t.selected = some database → s.selected = some database ∧
      (∀ inside, HasDatabase entries database inside → HasDatabase after database inside) ∧
      t.known.get? (storedName database) = s.known.get? (storedName database)) :
    t.KnowsListed := by
  cases hselected : t.selected with
  | none => exact knowsListed_of_selected_eq_none hselected
  | some database =>
      obtain ⟨hsame, hbeside, hknown⟩ := hkept database hselected
      obtain ⟨inside, hdatabase, hmem⟩ := h.exists_hasDatabase hover hstore hsame
      refine (knowsListed_iff hafter hselected (hbeside inside hdatabase)).mpr fun name => ?_
      rw [← hmem, knownTables, knownTables, hselected, hsame]
      simp only [hknown]

/-! ## When track is lost -/

theorem not_losesTrack_of_selected_eq_none (h : s.selected = none) : ¬s.LosesTrack statement := by
  intro htrack
  cases statement with
  | dropDatabase | dropTable =>
      obtain ⟨selected, _, _, hselected, _⟩ := htrack
      cases h.symm.trans hselected
  | _ => exact htrack

theorem losesTrack_dropDatabase_iff (hstore : s.store = r.holding entries)
    (hselected : s.selected = some database) (h : HasDatabase entries database inside)
    {dropped : String} :
    s.LosesTrack (.dropDatabase dropped) ↔ sameWord database dropped = true ∧
      (∃ entry ∈ inside, Directory.isFileTree entry.2 = true) ∧
        ∃ entry ∈ inside, Directory.isFileTree entry.2 = false := by
  have hentries : s.store.entries? database =
      some (r.place ++ [storedName database], inside) := by
    rw [hstore, h.entries?_eq]
  constructor
  · rintro ⟨selected, place, others, hother, hsame, hothers, hlost⟩
    cases hselected.symm.trans hother
    cases hentries.symm.trans hothers
    exact ⟨hsame, hlost⟩
  · rintro ⟨hsame, hlost⟩
    exact ⟨database, _, inside, hselected, hsame, hentries, hlost⟩

theorem losesTrack_dropTable_iff (hstore : s.store = r.holding entries)
    (hselected : s.selected = some database) (h : HasDatabase entries database inside)
    {table : String} :
    s.LosesTrack (.dropTable table) ↔ storedName table ∈ fileNames inside ∧
      ∃ name ∈ fileNames inside, name ≠ storedName table ∧ sameWord name table = true := by
  have hentries : s.store.entries? database =
      some (r.place ++ [storedName database], inside) := by
    rw [hstore, h.entries?_eq]
  constructor
  · rintro ⟨selected, place, others, hother, hothers, hlost⟩
    cases hselected.symm.trans hother
    cases hentries.symm.trans hothers
    exact hlost
  · intro hlost
    exact ⟨database, _, inside, hselected, hentries, hlost⟩

/-! ## Statements one by one -/

theorem IsOver.of_store (h : s.IsOver r) (hstore : t.store = r.holding after)
    (hafter : HasFolders after)
    (hselected : ∀ database, t.selected = some database → s.selected = some database) :
    t.IsOver r where
  store := ⟨after, hafter, hstore⟩
  isName := fun database ht => h.isName database (hselected database ht)

/-- Other entries are put into the selected database. -/
theorem IsOver.put_selected (hover : s.IsOver r) (hselected : s.selected = some database)
    (hfolders : HasFolders entries) (hdatabase : HasDatabase entries database inside)
    (hafter : IsFolder after)
    (hstore : t.store =
      r.holding (Assoc.insert (storedName database) (.directory after) entries))
    (hsame : t.selected = s.selected) :
    t.IsOver r ∧
      (t.KnowsListed ↔ ∀ name, name ∈ t.knownTables ↔ name ∈ fileNames after) := by
  refine ⟨hover.of_store hstore (hfolders.insert_directory hafter _) fun other hother => ?_,
    knowsListed_iff hstore (hsame.trans hselected) (hdatabase.insert_self after)⟩
  rwa [← hsame]

variable {table : String} {store : Directory}

theorem createDatabase_step (hover : s.IsOver r) (h : s.KnowsListed)
    (hname : Token.isName database = true) {answer : Except Fault Unit}
    (hstore : Store.createDatabase s.store database = (answer, store)) :
    IsOver r { s with store := store } ∧ KnowsListed { s with store := store } := by
  obtain ⟨entries, hfolders, hholding⟩ := hover.store
  rw [hholding] at hstore
  rcases r.createDatabase_cases entries hname with ⟨hentry, hmissing, hcreate⟩ | ⟨fault, hcreate⟩
  · have hafter : store = r.holding (Assoc.insert (storedName database) .empty entries) :=
      congrArg Prod.snd (hstore.symm.trans hcreate)
    refine ⟨hover.of_store hafter (hfolders.insert_directory Root.isFolder_nil _) fun _ => id,
      h.of_beside hover hholding hafter fun other hother => ⟨hother, fun inside hother => ?_, rfl⟩⟩
    -- The selected database is there, so it is not the one that is created.
    refine hother.insert_of_ne (fun hsame => ?_) _
    rw [← hsame, hother.get?_eq] at hmissing
    cases hmissing
  · have hafter : store = s.store :=
      (congrArg Prod.snd (hstore.symm.trans hcreate)).trans hholding.symm
    rw [hafter]
    exact ⟨hover, h⟩

theorem createTable_step (hover : s.IsOver r) (h : s.KnowsListed)
    (hselected : s.selected = some database) (htable : Token.isName table = true)
    {header : List String}
    (hstore : Store.createTable s.store database table header = (.ok (), store)) :
    (addKnown { s with store := store } database table).IsOver r ∧
      (addKnown { s with store := store } database table).KnowsListed := by
  obtain ⟨entries, hfolders, hholding⟩ := hover.store
  obtain ⟨inside, hdatabase, hmem⟩ := h.exists_hasDatabase hover hholding hselected
  have hinside := hfolders _ _ hdatabase.get?_eq
  rw [hholding] at hstore
  obtain ⟨bytes, hentry, hafter⟩ := hdatabase.createTable_eq_ok htable hstore
  have hreached : Session.selected { s with store := store } = some database := hselected
  obtain ⟨hkeeps, hiff⟩ := hover.put_selected (t := addKnown { s with store := store } database
    table) hselected hfolders hdatabase (hinside.insert hentry (.file bytes)) hafter rfl
  refine ⟨hkeeps, hiff.mpr fun name => ?_⟩
  rw [mem_knownTables_addKnown_iff hreached, hinside.mem_fileNames_insert_iff hentry, or_comm]
  exact or_congr_right (hmem name)

theorem write_step (hover : s.IsOver r) (h : s.KnowsListed)
    (hselected : s.selected = some database) (htable : Token.isName table = true)
    {lines : List String}
    (hstore : Store.write s.store database table lines = (.ok (), store)) :
    IsOver r { s with store := store } ∧ KnowsListed { s with store := store } := by
  obtain ⟨entries, hfolders, hholding⟩ := hover.store
  obtain ⟨inside, hdatabase, hmem⟩ := h.exists_hasDatabase hover hholding hselected
  have hinside := hfolders _ _ hdatabase.get?_eq
  rw [hholding] at hstore
  obtain ⟨old, bytes, hentry, hold, hafter⟩ := hdatabase.write_eq_ok htable hstore
  have hlisted : storedName table ∈ fileNames inside := hinside.mem_fileNames_iff.mpr ⟨old, hold⟩
  obtain ⟨hkeeps, hiff⟩ := hover.put_selected (t := { s with store := store }) hselected hfolders
    hdatabase (hinside.insert hentry (.file bytes)) hafter rfl
  refine ⟨hkeeps, hiff.mpr fun name => ?_⟩
  rw [hinside.mem_fileNames_insert_iff hentry]
  refine (hmem name).trans ⟨Or.inr, ?_⟩
  rintro (rfl | hname)
  · exact hlisted
  · exact hname

/-- The session takes out every table of the same word, the store only the one under its key. -/
theorem dropTable_step (hover : s.IsOver r) (h : s.KnowsListed)
    (hselected : s.selected = some database) (htable : Token.isName table = true)
    (hstore : Store.dropTable s.store database table = (.ok (), store)) :
    (dropKnown { s with store := store } database table).IsOver r ∧
      ((dropKnown { s with store := store } database table).KnowsListed ↔
        ¬s.LosesTrack (.dropTable table)) := by
  obtain ⟨entries, hfolders, hholding⟩ := hover.store
  obtain ⟨inside, hdatabase, hmem⟩ := h.exists_hasDatabase hover hholding hselected
  have hinside := hfolders _ _ hdatabase.get?_eq
  rw [losesTrack_dropTable_iff hholding hselected hdatabase]
  rw [hholding] at hstore
  obtain ⟨bytes, hentry, hfile, hafter⟩ := hdatabase.dropTable_eq_ok htable hstore
  have hlisted : storedName table ∈ fileNames inside :=
    hinside.mem_fileNames_iff.mpr ⟨bytes, hfile⟩
  have hword : sameWord (storedName table) table = true :=
    (sameWord_iff_eq_storedName (Text.folded_lower table) htable).mpr rfl
  have hreached : Session.selected { s with store := store } = some database := hselected
  have herased : IsFolder (Assoc.erase (storedName table) inside) := hinside.filter _
  obtain ⟨hkeeps, hiff⟩ := hover.put_selected
    (t := dropKnown { s with store := store } database table) hselected hfolders hdatabase herased
    ((store_dropKnown _ _ _).trans hafter) (selected_dropKnown _ _ _)
  refine ⟨hkeeps, hiff.trans ⟨?_, fun htrack name => ?_⟩⟩
  · rintro hsame ⟨_, name, hname, hne, hsameWord⟩
    have hstays := (hinside.mem_fileNames_erase_iff (storedName table) name).mpr ⟨hname, hne⟩
    rw [← hsame, mem_knownTables_dropKnown_iff hreached, hsameWord] at hstays
    exact Bool.noConfusion hstays.2
  · rw [mem_knownTables_dropKnown_iff hreached, hinside.mem_fileNames_erase_iff]
    refine (and_congr_left' (hmem name)).trans (and_congr_right fun hname => ?_)
    constructor
    · rintro hother rfl
      exact Bool.noConfusion (hword.symm.trans hother)
    · intro hne
      rw [← Bool.not_eq_true]
      exact fun hsameWord => htrack ⟨hlisted, name, hname, hne, hsameWord⟩

/-- A table that is listed is dropped, so where the drop is refused no track is lost. -/
theorem not_losesTrack_dropTable_of_refused (hover : s.IsOver r) (h : s.KnowsListed)
    (hrefused : (s.perform (.dropTable table)).1.isAccepted = false) :
    ¬s.LosesTrack (.dropTable table) := by
  intro htrack
  obtain ⟨entries, hfolders, hholding⟩ := hover.store
  cases hselected : s.selected with
  | none => exact not_losesTrack_of_selected_eq_none hselected htrack
  | some database =>
      obtain ⟨inside, hdatabase, _⟩ := h.exists_hasDatabase hover hholding hselected
      have hinside := hfolders _ _ hdatabase.get?_eq
      obtain ⟨hlisted, _⟩ := (losesTrack_dropTable_iff hholding hselected hdatabase).mp htrack
      obtain ⟨bytes, hfile⟩ := hinside.mem_fileNames_iff.mp hlisted
      have hdrop := hdatabase.dropTable_of_file (r := r) (hinside.isEntryName_of_mem hlisted) hfile
      rw [← hholding] at hdrop
      rw [perform_dropTable_of_ok hselected hdrop] at hrefused
      cases hrefused

/-- Track is lost only by the drop of a database that is there, with a directory in it. -/
theorem exists_hasDatabase_of_losesTrack (hover : s.IsOver r) (h : s.KnowsListed)
    (hname : Token.isName database = true) (hholding : s.store = r.holding entries)
    (htrack : s.LosesTrack (.dropDatabase database)) :
    ∃ inside, HasDatabase entries database inside ∧
      ∃ entry ∈ inside, Directory.isFileTree entry.2 = false := by
  cases hselected : s.selected with
  | none => exact absurd htrack (not_losesTrack_of_selected_eq_none hselected)
  | some selected =>
      obtain ⟨inside, hdatabase, _⟩ := h.exists_hasDatabase hover hholding hselected
      obtain ⟨hsame, _, hdirectory⟩ :=
        (losesTrack_dropDatabase_iff hholding hselected hdatabase).mp htrack
      rw [← storedName_eq_storedName_iff (hover.isName selected hselected) hname] at hsame
      exact ⟨inside, hdatabase.congr hsame, hdirectory⟩

/-- Another database than the selected one is left alone in files and in mind. -/
theorem dropDatabase_step_of_ok (hover : s.IsOver r) (h : s.KnowsListed)
    (hname : Token.isName database = true)
    (hstore : Store.dropDatabase s.store database = (.ok (), store)) :
    (dropDatabase { s with store := store } database).IsOver r ∧
      (dropDatabase { s with store := store } database).KnowsListed ∧
      ¬s.LosesTrack (.dropDatabase database) := by
  obtain ⟨entries, hfolders, hholding⟩ := hover.store
  rw [hholding] at hstore
  rcases r.dropDatabase_cases hfolders hname with
    ⟨_, fault, hdrop⟩ | ⟨inside, hdatabase, ⟨hfiles, hdrop⟩ | ⟨_, fault, hdrop⟩⟩
  · cases hdrop.symm.trans hstore
  · have hafter : store = r.holding (Assoc.erase (storedName database) entries) :=
      congrArg Prod.snd (hstore.symm.trans hdrop)
    rw [dropDatabase_eq]
    refine ⟨hover.of_store hafter (hfolders.erase _) fun other hother =>
      (Option.filter_eq_some_iff.mp hother).1, h.of_beside hover hholding hafter ?_, ?_⟩
    · intro other hother
      obtain ⟨hselected, hword⟩ := Option.filter_eq_some_iff.mp hother
      have hne : storedName other ≠ storedName database := by
        rw [Ne, storedName_eq_storedName_iff (hover.isName other hselected) hname]
        simpa using hword
      exact ⟨hselected, fun inside hinside => hinside.erase_of_ne hne,
        (Dict.get?_erase _ _ _).trans (if_neg hne)⟩
    · intro htrack
      obtain ⟨others, hothers, entry, hentry, hnot⟩ :=
        exists_hasDatabase_of_losesTrack hover h hname hholding htrack
      cases hothers.eq hdatabase
      exact Bool.noConfusion ((hfiles entry hentry).symm.trans hnot)
  · cases hdrop.symm.trans hstore

/-- What stays of the selected database has no files, so nothing must have been known of it. -/
theorem knowsListed_of_emptied_iff (hselected : t.selected = some database)
    (hdatabase : HasDatabase entries database inside) (hinside : IsFolder inside)
    (hmem : ∀ name, name ∈ t.knownTables ↔ name ∈ fileNames inside)
    (hstore : t.store = r.holding (Assoc.insert (storedName database)
      (.directory (inside.filter fun entry => !Directory.isFileTree entry.2)) entries)) :
    t.KnowsListed ↔ ¬∃ entry ∈ inside, Directory.isFileTree entry.2 = true := by
  rw [knowsListed_iff hstore hselected (hdatabase.insert_self _),
    Root.fileNames_filter_not_file]
  constructor
  · rintro hnothing ⟨entry, hentry, hfile⟩
    have hlisted := Root.mem_fileNames_of_mem hentry hfile
    rw [← hmem] at hlisted
    cases (hnothing entry.1).mp hlisted
  · intro hfiles name
    refine iff_of_false (fun hname => hfiles ?_) List.not_mem_nil
    obtain ⟨bytes, hget⟩ := hinside.mem_fileNames_iff.mp ((hmem name).mp hname)
    exact ⟨_, Assoc.mem_of_get?_eq_some hget, rfl⟩

/-- A database with a directory in it loses its files, in sight of the session or beside it. -/
theorem files_dropped_step (hover : s.IsOver r) (h : s.KnowsListed)
    (hname : Token.isName database = true) (hholding : s.store = r.holding entries)
    (hfolders : HasFolders entries) (hdatabase : HasDatabase entries database inside)
    (hdirectory : ∃ entry ∈ inside, Directory.isFileTree entry.2 = false)
    (hstore : t.store = r.holding (Assoc.insert (storedName database)
      (.directory (inside.filter fun entry => !Directory.isFileTree entry.2)) entries))
    (hsame : t.selected = s.selected) (hknown : t.known = s.known) :
    t.IsOver r ∧ (t.KnowsListed ↔ ¬s.LosesTrack (.dropDatabase database)) := by
  have hinside := hfolders _ _ hdatabase.get?_eq
  have hleft : IsFolder (inside.filter fun entry => !Directory.isFileTree entry.2) :=
    hinside.filter _
  have hover' : t.IsOver r :=
    hover.of_store hstore (hfolders.insert_directory hleft _) fun _ hother => by rwa [← hsame]
  refine ⟨hover', ?_⟩
  cases hselected : s.selected with
  | none =>
      exact iff_of_true (knowsListed_of_selected_eq_none (hsame.trans hselected))
        (not_losesTrack_of_selected_eq_none hselected)
  | some selected =>
      obtain ⟨others, hother, hmem⟩ := h.exists_hasDatabase hover hholding hselected
      have hkeys := storedName_eq_storedName_iff (hover.isName selected hselected) hname
      rw [losesTrack_dropDatabase_iff hholding hselected hother]
      by_cases hword : sameWord selected database = true
      · cases (hother.congr (hkeys.mpr hword)).eq hdatabase
        rw [← hkeys.mpr hword] at hstore
        have htables : t.knownTables = s.knownTables := by
          rw [knownTables, knownTables, hsame, hknown]
        rw [← htables] at hmem
        rw [knowsListed_of_emptied_iff (hsame.trans hselected) hother hinside hmem hstore]
        exact not_congr ⟨fun hfile => ⟨hword, hfile, hdirectory⟩, fun htrack => htrack.2.1⟩
      · have hne : storedName selected ≠ storedName database := fun hkey => hword (hkeys.mp hkey)
        refine iff_of_true (h.of_beside hover hholding hstore ?_) fun htrack => hword htrack.1
        intro current hcurrent
        rw [hsame, hselected] at hcurrent
        cases hcurrent
        exact ⟨hselected, fun _ hcurrent => hcurrent.insert_of_ne hne _, by rw [hknown]⟩

theorem dropDatabase_step_of_error (hover : s.IsOver r) (h : s.KnowsListed)
    (hname : Token.isName database = true) {fault : Fault}
    (hstore : Store.dropDatabase s.store database = (.error fault, store)) :
    IsOver r { s with store := store } ∧
      (KnowsListed { s with store := store } ↔ ¬s.LosesTrack (.dropDatabase database)) := by
  obtain ⟨entries, hfolders, hholding⟩ := hover.store
  rw [hholding] at hstore
  rcases r.dropDatabase_cases hfolders hname with
    ⟨hnone, _, hdrop⟩ | ⟨inside, hdatabase, ⟨_, hdrop⟩ | ⟨hdirectory, _, hdrop⟩⟩
  · have hafter : store = s.store :=
      (congrArg Prod.snd (hstore.symm.trans hdrop)).trans hholding.symm
    rw [hafter]
    refine ⟨hover, iff_of_true h fun htrack => ?_⟩
    obtain ⟨others, hothers, _⟩ :=
      exists_hasDatabase_of_losesTrack hover h hname hholding htrack
    exact hnone others hothers
  · cases hdrop.symm.trans hstore
  · have hafter := congrArg Prod.snd (hstore.symm.trans hdrop)
    exact files_dropped_step hover h hname hholding hfolders hdatabase hdirectory hafter rfl rfl

/-! ## Runs -/

/-- A statement that is carried out goes on to know the tables unless it loses track of them. -/
theorem Effect.step (heffect : s.Effect statement t) (hover : s.IsOver r) (h : s.KnowsListed)
    (hnames : ∀ name ∈ statement.names, Token.isName name = true) :
    t.IsOver r ∧ (t.KnowsListed ↔ ¬s.LosesTrack statement) := by
  cases heffect with
  | @use other tables _ htables =>
      obtain ⟨entries, hfolders, hholding⟩ := hover.store
      refine ⟨⟨⟨entries, hfolders, hholding⟩, fun database hselected => ?_⟩,
        iff_of_true (knowsListed_use htables) id⟩
      cases hselected
      exact hnames other (by simp [Statement.names])
  | @createDatabase other store hstore =>
      obtain ⟨hkeeps, hknows⟩ :=
        createDatabase_step hover h (hnames other (by simp [Statement.names])) hstore
      exact ⟨hkeeps, iff_of_true hknows id⟩
  | @createTable table database columns store hselected hstore =>
      obtain ⟨hkeeps, hknows⟩ :=
        createTable_step hover h hselected (hnames table (by simp [Statement.names])) hstore
      exact ⟨hkeeps, iff_of_true hknows id⟩
  | @rewrite _ table database lines store htable hselected hstore =>
      have hname : Token.isName table = true := by
        cases statement with
        | insert | update | delete | alter =>
            cases htable
            exact hnames table (by simp [Statement.names])
        | _ => cases htable
      obtain ⟨hkeeps, hknows⟩ := write_step hover h hselected hname hstore
      refine ⟨hkeeps, iff_of_true hknows ?_⟩
      cases statement with
      | dropTable | dropDatabase => cases htable
      | _ => exact id
  | query hquery =>
      refine ⟨hover, iff_of_true h ?_⟩
      cases statement with
      | dropTable | dropDatabase => cases hquery
      | _ => exact id
  | @dropTable table database store hselected hstore =>
      exact dropTable_step hover h hselected (hnames table (by simp [Statement.names])) hstore
  | @dropDatabase other store hstore =>
      obtain ⟨hkeeps, hknows, htrack⟩ :=
        dropDatabase_step_of_ok hover h (hnames other (by simp [Statement.names])) hstore
      exact ⟨hkeeps, iff_of_true hknows htrack⟩

theorem perform_step (hover : s.IsOver r) (h : s.KnowsListed)
    (hnames : ∀ name ∈ statement.names, Token.isName name = true) :
    (s.perform statement).2.IsOver r ∧
      ((s.perform statement).2.KnowsListed ↔ ¬s.LosesTrack statement) := by
  cases haccepted : (s.perform statement).1.isAccepted with
  | true => exact (effect_of_perform haccepted).step hover h hnames
  | false =>
      -- Only a statement on a whole database may have done something before it was refused.
      cases hkind : statement.isOnDatabase with
      | false =>
          have hsame : (s.perform statement).2 = s :=
            perform_eq_self_of_atomic (Statement.atomic_action_of_tables hkind) haccepted
          rw [hsame]
          refine ⟨hover, iff_of_true h ?_⟩
          cases statement with
          | dropTable => exact not_losesTrack_dropTable_of_refused hover h haccepted
          | createDatabase | dropDatabase => cases hkind
          | _ => exact id
      | true =>
          cases statement with
          | createDatabase other =>
              rw [perform_createDatabase]
              obtain ⟨hkeeps, hknows⟩ :=
                createDatabase_step hover h (hnames other (by simp [Statement.names])) rfl
              exact ⟨hkeeps, iff_of_true hknows id⟩
          | dropDatabase other =>
              cases hstore : Store.dropDatabase s.store other with
              | mk answer store =>
                  cases answer with
                  | ok =>
                      rw [perform_dropDatabase_of_ok hstore] at haccepted
                      cases haccepted
                  | error fault =>
                      rw [perform_dropDatabase_of_error hstore]
                      exact dropDatabase_step_of_error hover h
                        (hnames other (by simp [Statement.names])) hstore
          | _ => cases hkind

/-- A text is read as a statement that loses track. -/
def LosesTrackOf (s : Session Directory) (text : String) : Prop :=
  ∃ statement, Statement.ofText text = .ok statement ∧ s.LosesTrack statement

theorem execute_step (hover : s.IsOver r) (h : s.KnowsListed) (text : String) :
    (s.execute text).2.IsOver r ∧ ((s.execute text).2.KnowsListed ↔ ¬s.LosesTrackOf text) := by
  cases hread : Statement.ofText text with
  | error fault =>
      have hsame : (s.execute text).2 = s := by
        unfold execute
        rw [hread]
        split
        · rfl
        · rfl
      rw [hsame]
      refine ⟨hover, iff_of_true h ?_⟩
      rintro ⟨statement, hother, _⟩
      cases hread.symm.trans hother
  | ok statement =>
      rw [execute_of_ofText hread]
      have hnames : ∀ name ∈ statement.names, Token.isName name = true :=
        fun name hname => ((Statement.wellRead_of_ofText hread).names name hname).isName
      obtain ⟨hkeeps, hiff⟩ := perform_step hover h hnames
      refine ⟨hkeeps, hiff.trans (not_congr ⟨fun htrack => ⟨statement, hread, htrack⟩, ?_⟩)⟩
      rintro ⟨other, hother, htrack⟩
      cases hread.symm.trans hother
      exact htrack

/-- Along a run the tables go on to be known exactly as long as no text loses track. -/
theorem knowsListed_executeAll_iff (hover : s.IsOver r) (h : s.KnowsListed)
    (texts : List String) :
    (∀ before, before <+: texts → (s.executeAll before).2.KnowsListed) ↔
      ∀ before text, before ++ [text] <+: texts →
        ¬(s.executeAll before).2.LosesTrackOf text := by
  induction texts generalizing s with
  | nil =>
      refine iff_of_true (fun before hbefore => ?_) fun before text hbefore => ?_
      · rw [List.prefix_nil.mp hbefore]
        exact h
      · cases List.append_ne_nil_of_right_ne_nil before (List.cons_ne_nil text [])
          (List.prefix_nil.mp hbefore)
  | cons first more ih =>
      obtain ⟨hkeeps, hiff⟩ := execute_step hover h first
      constructor
      · intro hknows before text hbefore
        have hfirst : (s.execute first).2.KnowsListed :=
          hknows [first] (List.cons_prefix_cons.mpr ⟨rfl, List.nil_prefix⟩)
        cases before with
        | nil =>
            obtain ⟨rfl, _⟩ := List.cons_prefix_cons.mp hbefore
            exact hiff.mp hfirst
        | cons other before =>
            obtain ⟨rfl, hmore⟩ := List.cons_prefix_cons.mp hbefore
            refine (ih hkeeps hfirst).mp (fun earlier hearlier => ?_) before text hmore
            exact hknows (other :: earlier) (List.cons_prefix_cons.mpr ⟨rfl, hearlier⟩)
      · intro htrack before hbefore
        cases before with
        | nil => exact h
        | cons other before =>
            obtain ⟨rfl, hmore⟩ := List.cons_prefix_cons.mp hbefore
            have hfirst : (s.execute other).2.KnowsListed :=
              hiff.mpr (htrack [] other (List.cons_prefix_cons.mpr ⟨rfl, List.nil_prefix⟩))
            refine (ih hkeeps hfirst).mpr (fun earlier text hearlier => ?_) before hmore
            exact htrack (other :: earlier) text (List.cons_prefix_cons.mpr ⟨rfl, hearlier⟩)

theorem isOver_start (r : Root) (h : HasFolders entries) :
    (start (r.holding entries)).IsOver r where
  store := ⟨entries, h, rfl⟩
  isName := fun _ hselected => by cases hselected

/-- **Tables are known until track of them is lost.**  A session starts over a root directory with
any directories of databases in it, each with any files and directories.  Throughout a run of
texts, also after those that are refused, the tables known of the selected database are those that
are listed for it, exactly if no text of the run loses track: none drops the selected database
while there are both a file and a directory in it, and none drops a table of it while there is
another file whose name is the same word up to case. -/
theorem knowsListed_throughout_iff (r : Root) {entries : List (String × FileTree)}
    (hfolders : Root.HasFolders entries) (texts : List String) :
    let s := start (r.holding entries)
    (∀ before, before <+: texts → (s.executeAll before).2.KnowsListed) ↔
      ∀ before text, before ++ [text] <+: texts →
        ¬(s.executeAll before).2.LosesTrackOf text :=
  knowsListed_executeAll_iff (isOver_start r hfolders) (knowsListed_of_selected_eq_none rfl) texts

/-- The other table is taken for the one that is dropped. -/
example :
    let s := ((start (Root.top.holding
      [("d", .directory [("T", .file .empty), ("t", .file .empty)])])).executeAll
        ["USE d;", "DROP TABLE t;"]).2
    s.knownTables = [] ∧ Store.tables s.store "d" = .ok ["T"] := by
  decide +kernel

/-- A database that holds a file and a directory. -/
def mixed : List (String × FileTree) :=
  [("d", .directory [("s", .empty), ("t", .file .empty)])]

theorem hasFolders_mixed : Root.HasFolders mixed := by
  intro name inside hinside
  obtain ⟨hfirst, hsecond⟩ : FilePath.IsEntryName "s" ∧ FilePath.IsEntryName "t" := by
    constructor
    · constructor <;> decide
    · constructor <;> decide
  have hmem := Assoc.mem_of_get?_eq_some hinside
  rw [mixed, List.mem_singleton] at hmem
  cases hmem
  refine ⟨?_, by simp [hfirst, hsecond]⟩
  refine List.pairwise_cons.mpr ⟨?_, List.pairwise_singleton _ _⟩
  simp only [List.mem_singleton, forall_eq]
  decide +kernel

theorem knowsListed_throughout_mixed :
    Root.HasFolders mixed ∧ ∀ before, before <+: ["USE d;", "CREATE TABLE u;"] →
      ((start (Root.top.holding mixed)).executeAll before).2.KnowsListed := by
  refine ⟨hasFolders_mixed, (knowsListed_throughout_iff Root.top hasFolders_mixed _).mpr ?_⟩
  rintro before text hbefore ⟨statement, hread, htrack⟩
  have huse : Statement.ofText "USE d;" = .ok (.use "d") := by decide +kernel
  have hcreate : Statement.ofText "CREATE TABLE u;" = .ok (.createTable "u" []) := by
    decide +kernel
  have htext : text = "USE d;" ∨ text = "CREATE TABLE u;" := by
    simpa using hbefore.subset (List.mem_append_right before (List.mem_singleton_self text))
  rcases htext with rfl | rfl
  · cases huse.symm.trans hread
    exact htrack
  · cases hcreate.symm.trans hread
    exact htrack

/-- The database is not dropped, since there is a directory in it, but its file is. -/
theorem not_knowsListed_of_refused_drop :
    let s := ((start (Root.top.holding mixed)).executeAll ["USE d;", "DROP DATABASE d;"]).2
    s.selected = some "d" ∧ s.knownTables = ["t"] ∧ Store.tables s.store "d" = .ok [] ∧
      ¬s.KnowsListed := by
  intro s
  have hselected : s.selected = some "d" := by decide +kernel
  have hknown : s.knownTables = ["t"] := by decide +kernel
  have htables : Store.tables s.store "d" = .ok [] := by decide +kernel
  refine ⟨hselected, hknown, htables, fun hknows => ?_⟩
  obtain ⟨tables, hlisted, hmem⟩ := hknows "d" hselected
  cases htables.symm.trans hlisted
  rw [hknown] at hmem
  cases (hmem "t").mp List.mem_cons_self

end Session

end TextTables
