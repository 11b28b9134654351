import TextTables.Proofs.Store.Directory

/-!
# Operations on directories with any entries

A root directory may hold what no operation has made: files of any name in the directory of a
database, and directories beside them.  Each operation still does one thing to the entries of one
database, so what it does to the list of tables can be read off.
-/

namespace TextTables

open FilePath (IsEntryName longestName)

/-! ## Names that are too long -/

/-- A step that is too long for a name leads nowhere. -/
theorem Spot.short_of_walk_eq_ok {spot reached : Spot} {steps : List String}
    (h : spot.walk steps = .ok reached) : ∀ step ∈ steps, step.utf8ByteSize ≤ longestName := by
  induction steps generalizing spot with
  | nil => exact fun step hstep => by cases hstep
  | cons first rest ih =>
      obtain ⟨above, found⟩ := spot
      rw [Spot.walk] at h
      rw [List.forall_mem_cons]
      split at h
      · cases h
      · cases h
      · split at h
        · next hstay =>
            refine ⟨?_, ih h⟩
            rcases Bool.or_eq_true_iff.mp hstay with hempty | hdot
            · rw [beq_iff_eq.mp hempty]
              decide
            · rw [beq_iff_eq.mp hdot]
              decide
        · split at h
          · next hup =>
              refine ⟨?_, ih h⟩
              rw [beq_iff_eq.mp hup]
              decide
          · split at h
            · cases h
            · next hshort => exact ⟨Nat.not_lt.mp hshort, ih h⟩

theorem FileTree.short_of_resolve_eq_ok {tree : FileTree} {path : FilePath} {place : List String}
    (h : tree.resolve path = .ok place) :
    ∀ step ∈ path.steps, step.utf8ByteSize ≤ longestName := by
  obtain ⟨_, reached, hwalk, _⟩ := FileTree.resolve_eq_ok_iff.mp h
  exact fun step hstep => Spot.short_of_walk_eq_ok hwalk step (List.mem_append_right _ hstep)

theorem FileTree.exists_resolve_of_putFile_eq_ok {tree after : FileTree} {path : FilePath}
    {content : ByteArray} (h : tree.putFile path content = .ok after) :
    ∃ place, tree.resolve path = .ok place := by
  obtain ⟨place, hplace, _⟩ := exists_of_bind_eq_ok h
  exact ⟨place, hplace⟩

variable {name database table : String}

theorem ne_of_isName {other : String} (h : Token.isName name = true)
    (hother : Token.isName other = false) : name ≠ other := by
  rintro rfl
  rw [h] at hother
  cases hother

theorem FilePath.join_storedName (path : FilePath) (h : Token.isName name = true) :
    path.join (storedName name) = path.below [storedName name] := by
  have hslash : '/' ∉ (storedName name).toList := fun hmem =>
    absurd ((Token.isName_iff.mp (isName_storedName h)).2 _ hmem) (by decide)
  have hrelative : isAbsolute (storedName name) = false := by
    rw [isAbsolute, beq_eq_false_iff_ne]
    exact fun hhead => hslash (List.mem_of_head? hhead)
  rw [join, hrelative, if_neg Bool.false_ne_true, stepsOf, List.splitOn_eq_singleton hslash,
    List.map_singleton, String.ofList_toList]
  rfl

/-- The text of a path is not refused for what is there. -/
theorem FilePath.check_ne_missing (path : FilePath) : path.check ≠ .error .missing := by
  intro hcheck
  unfold check at hcheck
  split at hcheck
  · cases hcheck
  · split at hcheck
    · cases hcheck
    · cases hcheck

/-- A path that leads anywhere through a name has a name that is short enough. -/
theorem isEntryName_of_resolve_eq_ok {tree : FileTree} {path : FilePath} {place : List String}
    (hname : Token.isName name = true)
    (h : tree.resolve (path.join (storedName name)) = .ok place) :
    IsEntryName (storedName name) := by
  refine FilePath.isEntryName_storedName hname ?_
  rw [← utf8ByteSize_storedName hname]
  rw [path.join_storedName hname] at h
  exact FileTree.short_of_resolve_eq_ok h _ (List.mem_append_right _ List.mem_cons_self)

namespace Root

open Directory (content isFileTree)

variable {r : Root} {entries inside : List (String × FileTree)}

/-! ## Entries -/

/-- The root directory with these entries in it. -/
def holding (r : Root) (entries : List (String × FileTree)) : Directory :=
  ⟨r.filled entries, r.path⟩

/-- Among these entries a database is a directory with those inside. -/
structure HasDatabase (entries : List (String × FileTree)) (database : String)
    (inside : List (String × FileTree)) : Prop where
  isEntryName : IsEntryName (storedName database)
  get?_eq : Assoc.get? entries (storedName database) = some (.directory inside)

/-- The entries of a directory: their names can be names of entries, and are in order. -/
structure IsFolder (inside : List (String × FileTree)) : Prop where
  sorted : Assoc.Sorted inside
  isEntryName : ∀ entry ∈ inside, IsEntryName entry.1

/-- Every directory among the entries has entries in order. -/
def HasFolders (entries : List (String × FileTree)) : Prop :=
  ∀ name inside, Assoc.get? entries name = some (.directory inside) → IsFolder inside

/-- The names of the files. -/
def fileNames (inside : List (String × FileTree)) : List String :=
  (inside.filter fun entry => isFileTree entry.2).map Prod.fst

theorem isFolder_nil : IsFolder [] where
  sorted := List.Pairwise.nil
  isEntryName := fun entry h => by cases h

theorem IsFolder.insert (h : IsFolder inside) (hname : IsEntryName name) (tree : FileTree) :
    IsFolder (Assoc.insert name tree inside) where
  sorted := h.sorted.insert
  isEntryName := by
    intro entry hentry
    rcases Assoc.fst_eq_or_mem_of_mem_insert hentry with heq | hmem
    · rwa [heq]
    · exact h.isEntryName entry hmem

theorem IsFolder.filter (h : IsFolder inside) (keeps : String × FileTree → Bool) :
    IsFolder (inside.filter keeps) where
  sorted := h.sorted.filter _
  isEntryName := fun entry hentry => h.isEntryName entry (List.mem_filter.mp hentry).1

theorem mem_fileNames_of_mem {entry : String × FileTree} (hentry : entry ∈ inside)
    (hfile : isFileTree entry.2 = true) : entry.1 ∈ fileNames inside :=
  List.mem_map_of_mem (List.mem_filter.mpr ⟨hentry, hfile⟩)

theorem IsFolder.mem_fileNames_iff (h : IsFolder inside) :
    name ∈ fileNames inside ↔ ∃ bytes, Assoc.get? inside name = some (.file bytes) := by
  rw [fileNames, List.mem_map]
  constructor
  · rintro ⟨⟨key, tree⟩, hmem, rfl⟩
    obtain ⟨hmem, hfile⟩ := List.mem_filter.mp hmem
    cases tree with
    | file bytes => exact ⟨bytes, h.sorted.get?_eq_some hmem⟩
    | directory _ => cases hfile
  · rintro ⟨bytes, hget⟩
    exact ⟨_, List.mem_filter.mpr ⟨Assoc.mem_of_get?_eq_some hget, rfl⟩, rfl⟩

theorem IsFolder.isEntryName_of_mem (h : IsFolder inside) (hname : name ∈ fileNames inside) :
    IsEntryName name := by
  obtain ⟨bytes, hget⟩ := h.mem_fileNames_iff.mp hname
  exact h.isEntryName _ (Assoc.mem_of_get?_eq_some hget)

theorem IsFolder.mem_fileNames_insert_iff (h : IsFolder inside) (hname : IsEntryName name)
    (bytes : ByteArray) (other : String) :
    other ∈ fileNames (Assoc.insert name (.file bytes) inside) ↔
      other = name ∨ other ∈ fileNames inside := by
  rw [(h.insert hname _).mem_fileNames_iff, h.mem_fileNames_iff, Assoc.get?_insert]
  by_cases heq : other = name
  · simp [heq]
  · simp [heq]

theorem IsFolder.mem_fileNames_erase_iff (h : IsFolder inside) (name other : String) :
    other ∈ fileNames (Assoc.erase name inside) ↔ other ∈ fileNames inside ∧ other ≠ name := by
  have herased : IsFolder (Assoc.erase name inside) := h.filter _
  rw [herased.mem_fileNames_iff, h.mem_fileNames_iff, Assoc.get?_erase]
  by_cases heq : other = name
  · simp [heq]
  · simp [heq]

theorem fileNames_filter_not_file (inside : List (String × FileTree)) :
    fileNames (inside.filter fun entry => !isFileTree entry.2) = [] := by
  rw [fileNames, List.filter_filter, List.map_eq_nil_iff, List.filter_eq_nil_iff]
  intro entry _
  simp

theorem HasFolders.insert_directory (h : HasFolders entries) (hinside : IsFolder inside)
    (name : String) : HasFolders (Assoc.insert name (.directory inside) entries) := by
  intro other found hfound
  rw [Assoc.get?_insert] at hfound
  split at hfound
  · cases hfound
    exact hinside
  · exact h other found hfound

theorem HasFolders.erase (h : HasFolders entries) (name : String) :
    HasFolders (Assoc.erase name entries) := by
  intro other found hfound
  rw [Assoc.get?_erase] at hfound
  split at hfound
  · cases hfound
  · exact h other found hfound

/-- What is done to one entry leaves the databases under other names alone. -/
theorem HasDatabase.insert_of_ne {key : String} (h : HasDatabase entries database inside)
    (hne : storedName database ≠ key) (tree : FileTree) :
    HasDatabase (Assoc.insert key tree entries) database inside where
  isEntryName := h.isEntryName
  get?_eq := by rw [Assoc.get?_insert, if_neg hne, h.get?_eq]

theorem HasDatabase.erase_of_ne {key : String} (h : HasDatabase entries database inside)
    (hne : storedName database ≠ key) :
    HasDatabase (Assoc.erase key entries) database inside where
  isEntryName := h.isEntryName
  get?_eq := by rw [Assoc.get?_erase, if_neg hne, h.get?_eq]

/-- A database has the same entries under every name with its key. -/
theorem HasDatabase.congr {other : String} (h : HasDatabase entries database inside)
    (hkey : storedName database = storedName other) : HasDatabase entries other inside where
  isEntryName := hkey ▸ h.isEntryName
  get?_eq := hkey ▸ h.get?_eq

theorem HasDatabase.eq {others : List (String × FileTree)}
    (h : HasDatabase entries database inside) (hothers : HasDatabase entries database others) :
    inside = others := by
  cases h.get?_eq.symm.trans hothers.get?_eq
  rfl

/-- The entries of a database are replaced. -/
theorem HasDatabase.insert_self (h : HasDatabase entries database inside)
    (after : List (String × FileTree)) :
    HasDatabase (Assoc.insert (storedName database) (.directory after) entries) database after where
  isEntryName := h.isEntryName
  get?_eq := by rw [Assoc.get?_insert, if_pos rfl]

/-! ## What paths lead to -/

theorem databasePath_holding (r : Root) (entries : List (String × FileTree)) (database : String) :
    (r.holding entries).databasePath database = r.path.join (storedName database) := rfl

theorem lookup_database_eq_ok_iff (hname : Token.isName database = true) {found : FileTree} :
    (r.holding entries).tree.lookup ((r.holding entries).databasePath database) = .ok found ↔
      IsEntryName (storedName database) ∧
        Assoc.get? entries (storedName database) = some found := by
  rw [FileTree.lookup_eq_ok_iff, databasePath_holding]
  constructor
  · rintro ⟨place, hplace, hfound⟩
    have hentry := isEntryName_of_resolve_eq_ok hname hplace
    rw [hentry.join_eq] at hplace
    cases (r.resolve_database hentry).symm.trans hplace
    exact ⟨hentry, r.find?_database.symm.trans hfound⟩
  · rintro ⟨hentry, hfound⟩
    rw [hentry.join_eq]
    exact ⟨_, r.resolve_database hentry, r.find?_database.trans hfound⟩

theorem tablePath_holding (h : IsEntryName (storedName database)) (table : String) :
    (r.holding entries).tablePath database table =
      (r.path.below [storedName database]).join (storedName table) := by
  rw [Directory.tablePath, databasePath_holding, h.join_eq]

theorem HasDatabase.databasePath_eq (h : HasDatabase entries database inside) (r : Root) :
    (r.holding entries).databasePath database = r.path.below [storedName database] :=
  h.isEntryName.join_eq r.path

theorem HasDatabase.resolve_table (h : HasDatabase entries database inside)
    (hentry : IsEntryName (storedName table)) :
    (r.holding entries).tree.resolve ((r.holding entries).tablePath database table) =
      .ok (r.place ++ [storedName database, storedName table]) := by
  rw [tablePath_holding h.isEntryName, h.isEntryName.join_below hentry]
  exact r.resolve_table h.isEntryName hentry h.get?_eq

theorem HasDatabase.lookup_table_eq_ok_iff (h : HasDatabase entries database inside)
    (htable : Token.isName table = true) {found : FileTree} :
    (r.holding entries).tree.lookup ((r.holding entries).tablePath database table) = .ok found ↔
      IsEntryName (storedName table) ∧ Assoc.get? inside (storedName table) = some found := by
  rw [FileTree.lookup_eq_ok_iff]
  constructor
  · rintro ⟨place, hplace, hfound⟩
    have hentry : IsEntryName (storedName table) := isEntryName_of_resolve_eq_ok htable hplace
    cases (h.resolve_table hentry).symm.trans hplace
    exact ⟨hentry, (r.find?_table h.get?_eq).symm.trans hfound⟩
  · rintro ⟨hentry, hfound⟩
    exact ⟨_, h.resolve_table hentry, (r.find?_table h.get?_eq).trans hfound⟩

theorem HasDatabase.entries?_eq (h : HasDatabase entries database inside) :
    (r.holding entries).entries? database =
      some (r.place ++ [storedName database], inside) := by
  unfold Directory.entries?
  rw [h.databasePath_eq]
  simp only [holding, r.resolve_database h.isEntryName, r.find?_database, h.get?_eq]

theorem hasDatabase_of_entries?_eq_some (hname : Token.isName database = true)
    {place : List String} (h : (r.holding entries).entries? database = some (place, inside)) :
    HasDatabase entries database inside := by
  unfold Directory.entries? at h
  split at h
  · cases h
  · next found hresolve =>
      split at h
      · next other hfound =>
          cases h
          have hlookup := FileTree.lookup_eq_ok_iff.mpr ⟨_, hresolve, hfound⟩
          obtain ⟨hentry, hget⟩ := (lookup_database_eq_ok_iff hname).mp hlookup
          exact ⟨hentry, hget⟩
      · cases h

/-! ## What operations do -/

theorem HasDatabase.tables_eq (h : HasDatabase entries database inside) :
    Store.tables (r.holding entries) database = .ok (fileNames inside) := by
  change (r.holding entries).tables database = _
  rw [Directory.tables, h.entries?_eq]
  rfl

theorem exists_hasDatabase_of_tables_eq_ok (hname : Token.isName database = true)
    {names : List String} (h : Store.tables (r.holding entries) database = .ok names) :
    ∃ inside, HasDatabase entries database inside ∧ names = fileNames inside := by
  change (r.holding entries).tables database = _ at h
  unfold Directory.tables at h
  split at h
  · cases h
  · next place inside hentries =>
      cases h
      exact ⟨inside, hasDatabase_of_entries?_eq_some hname hentries, rfl⟩

/-- What is written is a file that was there. -/
theorem HasDatabase.write_eq_ok (h : HasDatabase entries database inside)
    (htable : Token.isName table = true) {lines : List String} {d : Directory}
    (hwrite : Store.write (r.holding entries) database table lines = (.ok (), d)) :
    ∃ old bytes, IsEntryName (storedName table) ∧
      Assoc.get? inside (storedName table) = some (.file old) ∧
      d = r.holding (Assoc.insert (storedName database)
        (.directory (Assoc.insert (storedName table) (.file bytes) inside)) entries) := by
  change (r.holding entries).write database table lines = _ at hwrite
  unfold Directory.write at hwrite
  dsimp only at hwrite
  split at hwrite
  · next hfile =>
      obtain ⟨old, hlookup⟩ := FileTree.isFile_iff.mp hfile
      obtain ⟨hentry, hold⟩ := (h.lookup_table_eq_ok_iff htable).mp hlookup
      have hfree : ∀ other, Assoc.get? inside (storedName table) ≠ some (.directory other) := by
        intro other hother
        cases hold.symm.trans hother
      have hput := r.putFile_table h.isEntryName hentry h.get?_eq hfree (content lines)
      rw [tablePath_holding h.isEntryName, h.isEntryName.join_below hentry, holding, hput]
        at hwrite
      cases hwrite
      exact ⟨old, _, hentry, hold, rfl⟩
  · cases hwrite

/-- A table is created where there was nothing. -/
theorem HasDatabase.createTable_eq_ok (h : HasDatabase entries database inside)
    (htable : Token.isName table = true) {header : List String} {d : Directory}
    (hcreate : Store.createTable (r.holding entries) database table header = (.ok (), d)) :
    ∃ bytes, IsEntryName (storedName table) ∧
      d = r.holding (Assoc.insert (storedName database)
        (.directory (Assoc.insert (storedName table) (.file bytes) inside)) entries) := by
  change (r.holding entries).createTable database table header = _ at hcreate
  unfold Directory.createTable at hcreate
  dsimp only at hcreate
  split at hcreate
  · cases hcreate
  · split at hcreate
    · cases hcreate
    · next hthere =>
        split at hcreate
        · next tree hput =>
            cases hcreate
            obtain ⟨place, hplace⟩ := FileTree.exists_resolve_of_putFile_eq_ok hput
            have hentry : IsEntryName (storedName table) :=
              isEntryName_of_resolve_eq_ok htable hplace
            have hfree : ∀ other,
                Assoc.get? inside (storedName table) ≠ some (.directory other) := by
              intro other hother
              have hlookup := (h.lookup_table_eq_ok_iff (r := r) htable).mpr ⟨hentry, hother⟩
              rw [FileTree.isThere, hlookup] at hthere
              exact hthere rfl
            rw [tablePath_holding h.isEntryName, h.isEntryName.join_below hentry, holding,
              r.putFile_table h.isEntryName hentry h.get?_eq hfree] at hput
            cases hput
            exact ⟨_, hentry, rfl⟩
        · cases hcreate

/-- A table that is a file is taken away. -/
theorem HasDatabase.dropTable_of_file (h : HasDatabase entries database inside)
    (hentry : IsEntryName (storedName table)) {bytes : ByteArray}
    (hfile : Assoc.get? inside (storedName table) = some (.file bytes)) :
    Store.dropTable (r.holding entries) database table =
      (.ok (), r.holding (Assoc.insert (storedName database)
        (.directory (Assoc.erase (storedName table) inside)) entries)) := by
  have hpath : (r.holding entries).tablePath database table =
      r.path.below [storedName database, storedName table] := by
    rw [tablePath_holding h.isEntryName, h.isEntryName.join_below hentry]
  have hthere : (r.holding entries).tree.isFile ((r.holding entries).tablePath database table) =
      true := by
    rw [FileTree.isFile_iff]
    refine ⟨bytes, FileTree.lookup_eq_ok_iff.mpr ⟨_, h.resolve_table hentry, ?_⟩⟩
    exact (r.find?_table h.get?_eq).trans hfile
  change (r.holding entries).dropTable database table = _
  unfold Directory.dropTable
  rw [if_pos hthere, hpath, holding, r.eraseFile_table h.isEntryName hentry h.get?_eq hfile]
  rfl

theorem HasDatabase.dropTable_eq_ok (h : HasDatabase entries database inside)
    (htable : Token.isName table = true) {d : Directory}
    (hdrop : Store.dropTable (r.holding entries) database table = (.ok (), d)) :
    ∃ bytes, IsEntryName (storedName table) ∧
      Assoc.get? inside (storedName table) = some (.file bytes) ∧
      d = r.holding (Assoc.insert (storedName database)
        (.directory (Assoc.erase (storedName table) inside)) entries) := by
  have hfile : (r.holding entries).tree.isFile ((r.holding entries).tablePath database table) =
      true := by
    by_contra hnone
    change (r.holding entries).dropTable database table = _ at hdrop
    unfold Directory.dropTable at hdrop
    rw [if_neg hnone] at hdrop
    cases hdrop
  obtain ⟨bytes, hlookup⟩ := FileTree.isFile_iff.mp hfile
  obtain ⟨hentry, hget⟩ := (h.lookup_table_eq_ok_iff htable).mp hlookup
  cases (h.dropTable_of_file hentry hget).symm.trans hdrop
  exact ⟨bytes, hentry, hget, rfl⟩

/-- A walk ends at a name that is too long for an entry. -/
theorem walk_of_not_isEntryName (r : Root) (entries : List (String × FileTree))
    (hname : Token.isName database = true) (hlong : ¬IsEntryName (storedName database)) :
    (r.filled entries).walk (r.path.base ++ (r.path.stem ++ [storedName database])) =
      .error .nameTooLong := by
  have hstored := isName_storedName hname
  have hbytes : longestName < (storedName database).utf8ByteSize := by
    rw [utf8ByteSize_storedName hname]
    exact Nat.lt_of_not_le fun hshort => hlong (FilePath.isEntryName_storedName hname hshort)
  have hempty : storedName database ≠ "" := ne_of_isName hstored rfl
  have hdot : storedName database ≠ "." := ne_of_isName hstored rfl
  have hstay : (storedName database == "" || storedName database == ".") = false := by
    simp [hempty, hdot]
  have hup : (storedName database == "..") = false :=
    beq_false_of_ne (ne_of_isName hstored rfl)
  obtain ⟨above, _, hbelow⟩ := r.exists_walk_below entries
  rw [hbelow, Spot.walk]
  simp only [hstay, hup, Bool.false_eq_true, if_false, if_pos hbytes]
  rfl

/-- Whether the text of the path or the name in it is refused, nothing was found missing. -/
theorem makeDirectory_of_not_isEntryName (r : Root) (entries : List (String × FileTree))
    (hname : Token.isName database = true) (hlong : ¬IsEntryName (storedName database)) :
    ∃ fault, (r.filled entries).makeDirectory (r.path.below [storedName database]) =
      .error fault ∧ fault ≠ .missing := by
  have hempty : storedName database ≠ "" := ne_of_isName (isName_storedName hname) rfl
  rw [FileTree.makeDirectory, r.trimmed_database hempty]
  cases hcheck : (r.path.below [storedName database]).check with
  | error fault =>
      refine ⟨fault, rfl, ?_⟩
      rintro rfl
      exact FilePath.check_ne_missing _ hcheck
  | ok _ =>
      have hwalk := r.walk_of_not_isEntryName entries hname hlong
      rw [ok_bind]
      refine ⟨.nameTooLong, congrArg (· >>= _) hwalk, ?_⟩
      intro hmissing
      cases hmissing

/-- No directory is made under a name that is too long for an entry, nor on the way to it. -/
theorem makeDirectories_of_not_isEntryName (r : Root) (entries : List (String × FileTree))
    (hname : Token.isName database = true) (hlong : ¬IsEntryName (storedName database)) :
    ∃ fault, (r.filled entries).makeDirectories (r.path.below [storedName database]) =
      (.error fault, r.filled entries) := by
  have hnone : (r.filled entries).isDirectory (r.path.below [storedName database]) = false := by
    rw [← Bool.not_eq_true, FileTree.isDirectory_iff]
    rintro ⟨found, hlookup⟩
    rw [← r.path.join_storedName hname] at hlookup
    exact hlong ((lookup_database_eq_ok_iff hname).mp hlookup).1
  obtain ⟨fault, hfault, hne⟩ := r.makeDirectory_of_not_isEntryName entries hname hlong
  refine ⟨fault, ?_⟩
  rw [FileTree.makeDirectories, FileTree.makeDirectoryAfter, hfault]
  cases fault with
  | missing => exact absurd rfl hne
  | occupied | notDirectory | isDirectory | nameTooLong | nulInName | notText =>
      simp only [hnone, Bool.false_eq_true, if_false]

/-- A database is created where there was nothing, or nothing is done. -/
theorem createDatabase_cases (r : Root) (entries : List (String × FileTree))
    (hname : Token.isName database = true) :
    (IsEntryName (storedName database) ∧ Assoc.get? entries (storedName database) = none ∧
        Store.createDatabase (r.holding entries) database =
          (.ok (), r.holding (Assoc.insert (storedName database) .empty entries))) ∨
      ∃ fault, Store.createDatabase (r.holding entries) database =
        (.error fault, r.holding entries) := by
  change _ ∨ ∃ fault, (r.holding entries).createDatabase database = _
  change (_ ∧ _ ∧ (r.holding entries).createDatabase database = _) ∨ _
  rw [Directory.createDatabase, databasePath_holding, r.path.join_storedName hname]
  by_cases hthere : (r.holding entries).tree.isThere (r.path.below [storedName database]) = true
  · rw [if_pos hthere]
    exact Or.inr ⟨_, rfl⟩
  · rw [if_neg hthere]
    by_cases hentry : IsEntryName (storedName database)
    · have hmissing : Assoc.get? entries (storedName database) = none := by
        by_contra hsome
        obtain ⟨tree, htree⟩ := Option.ne_none_iff_exists'.mp hsome
        have hlookup := (lookup_database_eq_ok_iff (r := r) hname).mpr ⟨hentry, htree⟩
        rw [databasePath_holding, r.path.join_storedName hname] at hlookup
        rw [FileTree.isThere, hlookup] at hthere
        exact hthere rfl
      have hmade : (r.holding entries).tree.makeDirectories (r.path.below [storedName database]) =
          (.ok (), r.filled (Assoc.insert (storedName database) .empty entries)) := by
        rw [FileTree.makeDirectories, FileTree.makeDirectoryAfter, holding,
          r.makeDirectory_database hentry hmissing]
      rw [hmade]
      exact Or.inl ⟨hentry, hmissing, rfl⟩
    · obtain ⟨fault, hmade⟩ := r.makeDirectories_of_not_isEntryName entries hname hentry
      rw [holding, hmade]
      exact Or.inr ⟨_, rfl⟩

/-- What is left of a database is what is no file, as every file has a path that fits. -/
theorem HasDatabase.filter_isLeft_eq (h : HasDatabase entries database inside)
    (hinside : IsFolder inside) :
    (inside.filter fun entry => !isFileTree entry.2 ||
        !(((r.holding entries).databasePath database).join entry.1).fits) =
      inside.filter fun entry => !isFileTree entry.2 := by
  apply List.filter_congr
  intro entry hentry
  have hname := hinside.isEntryName entry hentry
  have hfits : (r.path.below [storedName database, entry.1]).fits = true :=
    r.fits_below (by simpa using ⟨h.isEntryName, hname⟩) (by simp)
  rw [h.databasePath_eq, h.isEntryName.join_below hname, hfits]
  simp

/-- A database of files is taken away. -/
theorem HasDatabase.dropDatabase_of_forall_file (h : HasDatabase entries database inside)
    (hinside : IsFolder inside) (hfiles : ∀ entry ∈ inside, isFileTree entry.2 = true) :
    Store.dropDatabase (r.holding entries) database =
      (.ok (), r.holding (Assoc.erase (storedName database) entries)) := by
  have hnothing : (inside.filter fun entry => !isFileTree entry.2) = [] := by
    rw [List.filter_eq_nil_iff]
    intro entry hentry
    simp [hfiles entry hentry]
  have hempty : Assoc.get? (Assoc.insert (storedName database) (FileTree.directory []) entries)
      (storedName database) = some (.directory []) := by
    rw [Assoc.get?_insert, if_pos rfl]
  change (r.holding entries).dropDatabase database = _
  rw [Directory.dropDatabase, h.entries?_eq]
  simp only
  rw [h.filter_isLeft_eq hinside, hnothing]
  rw [h.databasePath_eq, holding, r.put_database,
    r.eraseDirectory?_database h.isEntryName hempty, Assoc.erase_insert]
  rfl

/-- Of a database with a directory in it the files are taken away, and the rest stays. -/
theorem HasDatabase.dropDatabase_of_exists_directory (h : HasDatabase entries database inside)
    (hinside : IsFolder inside) (hdirectory : ∃ entry ∈ inside, isFileTree entry.2 = false) :
    ∃ fault, Store.dropDatabase (r.holding entries) database =
      (.error fault, r.holding (Assoc.insert (storedName database)
        (.directory (inside.filter fun entry => !isFileTree entry.2)) entries)) := by
  obtain ⟨entry, hentry, hnot⟩ := hdirectory
  have hleft : entry ∈ inside.filter fun entry => !isFileTree entry.2 :=
    List.mem_filter.mpr ⟨hentry, by rw [hnot]; rfl⟩
  have hkept : (r.filled (Assoc.insert (storedName database)
      (.directory (inside.filter fun entry => !isFileTree entry.2)) entries)).eraseDirectory?
        (r.path.below [storedName database]) = none := by
    rw [FileTree.eraseDirectory?, r.resolve_database h.isEntryName]
    simp only [r.find?_database, Assoc.get?_insert, if_pos]
    split
    · next hnothing =>
        rw [FileTree.directory.inj (Option.some.inj hnothing)] at hleft
        cases hleft
    · rfl
  change ∃ fault, (r.holding entries).dropDatabase database = _
  rw [Directory.dropDatabase, h.entries?_eq]
  simp only
  rw [h.filter_isLeft_eq hinside]
  rw [h.databasePath_eq, holding, r.put_database, hkept]
  exact ⟨_, rfl⟩

/-- A database is not there, or it is taken away, or it loses its files. -/
theorem dropDatabase_cases (r : Root) (hfolders : HasFolders entries)
    (hname : Token.isName database = true) :
    ((∀ inside, ¬HasDatabase entries database inside) ∧
        ∃ fault, Store.dropDatabase (r.holding entries) database =
          (.error fault, r.holding entries)) ∨
      ∃ inside, HasDatabase entries database inside ∧
        (((∀ entry ∈ inside, isFileTree entry.2 = true) ∧
            Store.dropDatabase (r.holding entries) database =
              (.ok (), r.holding (Assoc.erase (storedName database) entries))) ∨
          (∃ entry ∈ inside, isFileTree entry.2 = false) ∧
            ∃ fault, Store.dropDatabase (r.holding entries) database =
              (.error fault, r.holding (Assoc.insert (storedName database)
                (.directory (inside.filter fun entry => !isFileTree entry.2)) entries))) := by
  cases hentries : (r.holding entries).entries? database with
  | none =>
      refine Or.inl ⟨fun inside hdatabase => ?_, .databaseMissing database, ?_⟩
      · cases hentries.symm.trans hdatabase.entries?_eq
      · change (r.holding entries).dropDatabase database = _
        rw [Directory.dropDatabase, hentries]
  | some found =>
      have hdatabase := hasDatabase_of_entries?_eq_some hname hentries
      have hinside := hfolders _ _ hdatabase.get?_eq
      refine Or.inr ⟨found.2, hdatabase, ?_⟩
      by_cases hfiles : ∀ entry ∈ found.2, isFileTree entry.2 = true
      · exact Or.inl ⟨hfiles, hdatabase.dropDatabase_of_forall_file hinside hfiles⟩
      · push Not at hfiles
        obtain ⟨entry, hentry, hnot⟩ := hfiles
        have hdirectory : ∃ entry ∈ found.2, isFileTree entry.2 = false :=
          ⟨entry, hentry, Bool.eq_false_iff.mpr hnot⟩
        exact Or.inr ⟨hdirectory, hdatabase.dropDatabase_of_exists_directory hinside hdirectory⟩

end Root

end TextTables
