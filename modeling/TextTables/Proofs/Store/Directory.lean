import TextTables.Proofs.Files.Walk
import TextTables.Proofs.Session.Transport
import TextTables.Proofs.Store.Catalog
import TextTables.Proofs.Text.Lines

/-!
# Catalogs in files

A catalog can be kept in files: a directory for each database, and in it a file for
each table.  As long as names are short enough to be names of files, the operations of
both stores do the same.  Only reading differs, where a line is not one line of a file.
-/

namespace TextTables

namespace Directory

/-- The directory of a database, with a file for each table. -/
def databaseTree (tables : Dict (List String)) : FileTree :=
  .directory (Assoc.mapValues (fun lines => .file (content lines)) tables.entries)

end Directory

namespace Root

open FilePath (IsEntryName)
open Directory (content databaseTree)

/-- The root directory as it is, without databases. -/
def directory (r : Root) : Directory :=
  ⟨r.tree, r.path⟩

/-- The root directory with a catalog kept in it. -/
def keep (r : Root) (c : Catalog) : Directory :=
  ⟨r.filled (Assoc.mapValues databaseTree c.databases.entries), r.path⟩

variable {r : Root} {c : Catalog} {database table : String} {Fits : String → Prop}

theorem keep_empty (r : Root) : r.keep .empty = r.directory := by
  have hput : r.filled [] = r.tree := r.inOrder.put_self r.find?_eq
  rw [keep, directory, Catalog.empty]
  exact congrArg (Directory.mk · r.path) hput

/-! ## Paths -/

theorem tree_keep (r : Root) (c : Catalog) :
    (r.keep c).tree = r.filled (Assoc.mapValues databaseTree c.databases.entries) := rfl

theorem databasePath_keep (h : IsEntryName (storedName database)) :
    (r.keep c).databasePath database = r.path.below [storedName database] :=
  h.join_eq r.path

theorem tablePath_keep (hdatabase : IsEntryName (storedName database))
    (htable : IsEntryName (storedName table)) :
    (r.keep c).tablePath database table =
      r.path.below [storedName database, storedName table] := by
  rw [Directory.tablePath, databasePath_keep hdatabase, hdatabase.join_below htable]

theorem get?_entries (c : Catalog) (database : String) :
    Assoc.get? (Assoc.mapValues databaseTree c.databases.entries) (storedName database) =
      (c.database? database).map databaseTree :=
  Assoc.get?_mapValues _ _ _

theorem get?_files (tables : Dict (List String)) (name : String) :
    Assoc.get? (Assoc.mapValues (fun lines => FileTree.file (content lines)) tables.entries) name =
      (tables.get? name).map fun lines => .file (content lines) :=
  Assoc.get?_mapValues _ _ _

/-! ## What paths lead to -/

theorem lookup_database (h : IsEntryName (storedName database)) :
    (r.keep c).tree.lookup ((r.keep c).databasePath database) =
      match c.database? database with
      | some tables => .ok (databaseTree tables)
      | none => .error .missing := by
  rw [databasePath_keep h, tree_keep, FileTree.lookup,
    r.resolve_database h, ok_bind, r.find?_database, get?_entries]
  cases c.database? database with
  | none => rfl
  | some tables => rfl

theorem lookup_table (hdatabase : IsEntryName (storedName database))
    (htable : IsEntryName (storedName table)) :
    (r.keep c).tree.lookup ((r.keep c).tablePath database table) =
      match c.table? database table with
      | some lines => .ok (.file (content lines))
      | none => .error .missing := by
  have hget := get?_entries c database
  rw [tablePath_keep hdatabase htable, tree_keep, FileTree.lookup, Catalog.table?]
  cases hfound : c.database? database with
  | none =>
      rw [hfound] at hget
      rw [r.resolve_table_missing hdatabase htable hget]
      rfl
  | some tables =>
      rw [hfound, Option.map_some] at hget
      rw [r.resolve_table hdatabase htable hget, ok_bind,
        r.find?_table hget, get?_files, Option.bind_eq_bind, Option.bind_some]
      cases tables.get? (storedName table) with
      | none => rfl
      | some lines => rfl

theorem strict?_content (lines : List String) :
    Text.Utf8.strict? (content lines) = some (Text.ofLines lines) := by
  rw [Text.Utf8.strict?, content, String.fromUTF8?, String.toUTF8_eq_toByteArray,
    dif_pos (Text.ofLines lines).isValidUTF8]
  rfl

/-- From a file the lines come back as lines of a file. -/
theorem read_keep (hdatabase : IsEntryName (storedName database))
    (htable : IsEntryName (storedName table)) :
    Store.read (r.keep c) database table =
      Text.lines (Text.ofLines (Store.read c database table)) := by
  change (r.keep c).read database table = Text.lines (Text.ofLines (c.read database table))
  unfold Directory.read Catalog.read
  have hlookup := lookup_table (r := r) (c := c) hdatabase htable
  cases hlines : c.table? database table with
  | none =>
      rw [hlines] at hlookup
      rw [FileTree.bytesAt, hlookup]
      rfl
  | some lines =>
      rw [hlines] at hlookup
      have hbytes : (r.keep c).tree.bytesAt ((r.keep c).tablePath database table) =
          .ok (content lines) := by
        rw [FileTree.bytesAt, hlookup]
        rfl
      rw [hbytes, Option.getD_some]
      simp only [strict?_content]

/-! ## Operations -/

theorem databaseExists_keep (h : IsEntryName (storedName database)) :
    Store.databaseExists (r.keep c) database = Store.databaseExists c database := by
  change (r.keep c).tree.isDirectory ((r.keep c).databasePath database) =
    (c.database? database).isSome
  rw [FileTree.isDirectory, lookup_database h]
  cases c.database? database with
  | none => rfl
  | some tables => rfl

theorem tree_keep_put (r : Root) (c : Catalog) (database : String) (tables : Dict (List String)) :
    (r.keep (c.put database tables)).tree =
      r.filled (Assoc.insert (storedName database) (databaseTree tables)
        (Assoc.mapValues databaseTree c.databases.entries)) :=
  congrArg r.filled (Assoc.mapValues_insert _ _ _ _)

theorem isThere_database (h : IsEntryName (storedName database)) :
    (r.keep c).tree.isThere ((r.keep c).databasePath database) =
      (c.database? database).isSome := by
  rw [FileTree.isThere, lookup_database h]
  cases c.database? database with
  | none => rfl
  | some tables => rfl

theorem isThere_table (hdatabase : IsEntryName (storedName database))
    (htable : IsEntryName (storedName table)) :
    (r.keep c).tree.isThere ((r.keep c).tablePath database table) =
      (c.table? database table).isSome := by
  rw [FileTree.isThere, lookup_table hdatabase htable]
  cases c.table? database table with
  | none => rfl
  | some lines => rfl

theorem isFile_table (hdatabase : IsEntryName (storedName database))
    (htable : IsEntryName (storedName table)) :
    (r.keep c).tree.isFile ((r.keep c).tablePath database table) =
      (c.table? database table).isSome := by
  rw [FileTree.isFile, lookup_table hdatabase htable]
  cases c.table? database table with
  | none => rfl
  | some lines => rfl

/-- A table is there if its database is and has it. -/
theorem isSome_table? {tables : Dict (List String)} (h : c.database? database = some tables) :
    (c.table? database table).isSome = tables.contains (storedName table) := by
  rw [Catalog.table?, h]
  rfl

theorem table?_of_database?_eq_none (h : c.database? database = none) :
    c.table? database table = none := by
  rw [Catalog.table?, h]
  rfl

theorem createDatabase_keep (h : IsEntryName (storedName database)) :
    Store.createDatabase (r.keep c) database =
      (Store.createDatabase c database).map id r.keep := by
  change (r.keep c).createDatabase database = (c.createDatabase database).map id r.keep
  rw [Directory.createDatabase, Catalog.createDatabase, isThere_database h]
  change (if (c.database? database).isSome = true then _ else _) =
    Prod.map id r.keep (if (c.database? database).isSome = true then _ else _)
  cases hfound : c.database? database with
  | some tables => rfl
  | none =>
      have hget := get?_entries c database
      rw [hfound] at hget
      have hmade : (r.keep c).tree.makeDirectories ((r.keep c).databasePath database) =
          (.ok (), (r.keep (c.put database .empty)).tree) := by
        rw [databasePath_keep h, tree_keep, FileTree.makeDirectories,
          FileTree.makeDirectoryAfter,
          r.makeDirectory_database h hget, tree_keep_put]
        rfl
      simp only [Option.isSome_none, Bool.false_eq_true, if_false]
      rw [hmade]
      rfl

theorem putFile_keep (hdatabase : IsEntryName (storedName database))
    (htable : IsEntryName (storedName table))
    {tables : Dict (List String)} (hfound : c.database? database = some tables)
    (lines : List String) :
    (r.keep c).tree.putFile ((r.keep c).tablePath database table) (content lines) =
      .ok (r.keep (c.put database (tables.insert (storedName table) lines))).tree := by
  have hget := get?_entries c database
  rw [hfound, Option.map_some] at hget
  have hfree : ∀ inside, Assoc.get?
      (Assoc.mapValues (fun lines => FileTree.file (content lines)) tables.entries)
      (storedName table) ≠ some (.directory inside) := by
    intro inside
    rw [get?_files]
    cases tables.get? (storedName table) with
    | none => exact fun h => by cases h
    | some old => exact fun h => by cases h
  have htree : databaseTree (tables.insert (storedName table) lines) =
      .directory (Assoc.insert (storedName table) (.file (content lines))
        (Assoc.mapValues (fun lines => .file (content lines)) tables.entries)) :=
    congrArg FileTree.directory (Assoc.mapValues_insert _ _ _ _)
  rw [tree_keep_put, htree, tablePath_keep hdatabase htable, tree_keep,
    r.putFile_table hdatabase htable hget hfree]

theorem write_keep (hdatabase : IsEntryName (storedName database))
    (htable : IsEntryName (storedName table))
    (lines : List String) :
    Store.write (r.keep c) database table lines =
      (Store.write c database table lines).map id r.keep := by
  change (r.keep c).write database table lines = (c.write database table lines).map id r.keep
  rw [Directory.write, Catalog.write]
  simp only [isFile_table hdatabase htable]
  cases hfound : c.database? database with
  | none =>
      rw [table?_of_database?_eq_none hfound]
      rfl
  | some tables =>
      rw [isSome_table? hfound, putFile_keep hdatabase htable hfound]
      simp only
      split
      · rfl
      · rfl

theorem createTable_keep (hdatabase : IsEntryName (storedName database))
    (htable : IsEntryName (storedName table))
    (header : List String) :
    Store.createTable (r.keep c) database table header =
      (Store.createTable c database table header).map id r.keep := by
  have hexists := databaseExists_keep (r := r) (c := c) hdatabase
  change (r.keep c).databaseExists database = (c.database? database).isSome at hexists
  change (r.keep c).createTable database table header =
    (c.createTable database table header).map id r.keep
  rw [Directory.createTable, Catalog.createTable, hexists]
  simp only [isThere_table hdatabase htable]
  cases hfound : c.database? database with
  | none => rfl
  | some tables =>
      rw [isSome_table? hfound, putFile_keep hdatabase htable hfound]
      simp only [Option.isSome_some, Bool.not_true, Bool.false_eq_true, if_false]
      split
      · rfl
      · rfl

theorem dropTable_keep (hdatabase : IsEntryName (storedName database))
    (htable : IsEntryName (storedName table)) :
    Store.dropTable (r.keep c) database table =
      (Store.dropTable c database table).map id r.keep := by
  change (r.keep c).dropTable database table = (c.dropTable database table).map id r.keep
  rw [Directory.dropTable, Catalog.dropTable]
  simp only [isFile_table hdatabase htable]
  cases hfound : c.database? database with
  | none =>
      rw [table?_of_database?_eq_none hfound]
      rfl
  | some tables =>
      rw [isSome_table? hfound]
      simp only
      split
      · next hcontains =>
          obtain ⟨lines, hlines⟩ := Dict.contains_iff.mp hcontains
          have hget := get?_entries c database
          rw [hfound, Option.map_some] at hget
          have hfile := get?_files tables (storedName table)
          rw [hlines, Option.map_some] at hfile
          have htree : databaseTree (tables.erase (storedName table)) =
              .directory (Assoc.erase (storedName table)
                (Assoc.mapValues (fun lines => .file (content lines)) tables.entries)) :=
            congrArg FileTree.directory (Assoc.mapValues_erase _ _ _)
          have herased : (r.keep c).tree.eraseFile
              ((r.keep c).tablePath database table) =
              .ok (r.keep (c.put database (tables.erase (storedName table)))).tree := by
            rw [tree_keep_put, htree, tablePath_keep hdatabase htable, tree_keep,
              r.eraseFile_table hdatabase htable hget hfile]
          rw [herased]
          rfl
      · rfl

theorem entries?_keep (h : IsEntryName (storedName database)) :
    (r.keep c).entries? database = (c.database? database).map fun tables =>
      (r.place ++ [storedName database],
        Assoc.mapValues (fun lines => .file (content lines)) tables.entries) := by
  unfold Directory.entries?
  rw [databasePath_keep h, tree_keep, r.resolve_database h]
  simp only
  rw [r.find?_database, get?_entries]
  cases c.database? database with
  | none => rfl
  | some tables => rfl

theorem tables_keep (h : IsEntryName (storedName database)) :
    Store.tables (r.keep c) database = Store.tables c database := by
  change (r.keep c).tables database = c.tables database
  unfold Directory.tables Catalog.tables
  rw [entries?_keep h]
  cases c.database? database with
  | none => rfl
  | some tables =>
      have hfiles : (Assoc.mapValues (fun lines => FileTree.file (content lines))
          tables.entries).filter (fun entry => Directory.isFileTree entry.2) =
          Assoc.mapValues (fun lines => FileTree.file (content lines)) tables.entries := by
        rw [List.filter_eq_self]
        intro entry hentry
        obtain ⟨⟨name, lines⟩, _, rfl⟩ := List.mem_map.mp hentry
        rfl
      simp only [Option.map_some]
      rw [hfiles, Assoc.mapValues, List.map_map]
      rfl

/-- Nothing is left in the directory of a database when its files are taken away. -/
theorem filter_isLeft_eq_nil (h : IsEntryName (storedName database))
    {tables : Dict (List String)}
    (htables : ∀ name lines, tables.get? name = some lines → IsEntryName name) :
    (Assoc.mapValues (fun lines => FileTree.file (content lines)) tables.entries).filter
      (fun entry => !Directory.isFileTree entry.2 ||
        !(((r.keep c).databasePath database).join entry.1).fits) = [] := by
  rw [List.filter_eq_nil_iff]
  intro entry hentry
  obtain ⟨⟨name, lines⟩, hmem, rfl⟩ := List.mem_map.mp hentry
  have hname := htables name lines (Dict.mem_entries_iff.mp hmem)
  have hfits : (r.path.below [storedName database, name]).fits = true :=
    r.fits_below (by simpa using ⟨h, hname⟩) (by simp)
  rw [databasePath_keep h]
  change ¬(!true || !((r.path.below [storedName database]).join name).fits) = true
  rw [h.join_below hname, hfits]
  decide

theorem dropDatabase_keep (h : IsEntryName (storedName database))
    (hc : c.Every IsEntryName fun name _ => IsEntryName name) :
    Store.dropDatabase (r.keep c) database =
      (Store.dropDatabase c database).map id r.keep := by
  change (r.keep c).dropDatabase database = (c.dropDatabase database).map id r.keep
  unfold Directory.dropDatabase Catalog.dropDatabase
  rw [entries?_keep h]
  change _ = Prod.map id r.keep (if (c.database? database).isSome = true then _ else _)
  cases hfound : c.database? database with
  | none => rfl
  | some tables =>
      have hleft := filter_isLeft_eq_nil (r := r) (c := c) h fun name lines hname =>
        hc.table hfound hname
      have hemptied : (r.filled (Assoc.insert (storedName database) (.directory [])
          (Assoc.mapValues databaseTree c.databases.entries))).eraseDirectory?
            (r.path.below [storedName database]) =
          some (r.keep ⟨c.databases.erase (storedName database)⟩).tree := by
        have hget : Assoc.get? (Assoc.insert (storedName database) (FileTree.directory [])
            (Assoc.mapValues databaseTree c.databases.entries)) (storedName database) =
            some (.directory []) := by
          rw [Assoc.get?_insert, if_pos rfl]
        rw [r.eraseDirectory?_database h hget, Assoc.erase_insert,
          ← Assoc.mapValues_erase]
        rfl
      simp only [Option.map_some, Option.isSome_some, if_true]
      rw [hleft, tree_keep, r.put_database, databasePath_keep h, hemptied]
      rfl

/-! ## Keeping a catalog -/

/-- In files all operations but reading do what they do on the catalog. -/
theorem actsAlike_keep (hfits : ∀ name, Fits name → IsEntryName (storedName name))
    (hc : c.Every IsEntryName fun name _ => IsEntryName name) :
    Store.ActsAlike r.keep Fits c where
  write := fun _ _ lines hdatabase htable =>
    write_keep (hfits _ hdatabase) (hfits _ htable) lines
  createTable := fun _ _ header hdatabase htable =>
    createTable_keep (hfits _ hdatabase) (hfits _ htable) header
  dropTable := fun _ _ hdatabase htable =>
    dropTable_keep (hfits _ hdatabase) (hfits _ htable)
  createDatabase := fun _ hdatabase => createDatabase_keep (hfits _ hdatabase)
  databaseExists := fun _ hdatabase => databaseExists_keep (hfits _ hdatabase)
  dropDatabase := fun _ hdatabase => dropDatabase_keep (hfits _ hdatabase) hc
  tables := fun _ hdatabase => tables_keep (hfits _ hdatabase)

end Root

/-- Every line of every table is one line of a file. -/
def Catalog.IsLined (c : Catalog) : Prop :=
  ∀ key tables, c.databases.get? key = some tables →
    ∀ name lines, tables.get? name = some lines → ∀ line ∈ lines, Text.IsLine line

namespace Root

open FilePath (IsEntryName)

variable {r : Root} {c : Catalog} {Fits : String → Prop}

/-- In files all lines are read as they were written if each is one line of a file. -/
theorem readsAlike_keep (hfits : ∀ name, Fits name → IsEntryName (storedName name))
    (hc : c.IsLined) : Store.ReadsAlike r.keep Fits c := by
  intro database table hdatabase htable
  rw [read_keep (hfits _ hdatabase) (hfits _ htable), Text.lines_ofLines_eq_self_iff]
  intro line hline
  change line ∈ (c.table? database table).getD [] at hline
  cases hlines : c.table? database table with
  | none =>
      rw [hlines] at hline
      cases hline
  | some lines =>
      rw [hlines] at hline
      obtain ⟨tables, htables, hname⟩ := Option.bind_eq_some_iff.mp hlines
      exact hc _ tables htables _ lines hname line hline

/-- The root directory of a tree that holds nothing else. -/
def top : Root where
  tree := .directory [("root", .empty)]
  inOrder := by
    refine .directory (List.pairwise_singleton _ _) fun name inner h => ?_
    cases List.mem_singleton.mp h
    exact .directory List.Pairwise.nil fun _ _ h => by cases h
  path := .ofText [] "/root"
  place := ["root"]
  resolve_eq := by decide
  find?_eq := rfl
  room := by decide

end Root

end TextTables
