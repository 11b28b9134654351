import TextTables.Proofs.Dictionary
import TextTables.Store.Catalog

/-!
# What a catalog keeps

An operation of a catalog that is carried out puts one database in, takes one out, or
replaces the tables of one.  So what holds of every key and every table goes on to hold
as long as it holds of what is put in, and all that is not named stays as it was.
-/

namespace TextTables.Catalog

variable {c d : Catalog} {database name : String}

/-! ## Operations that are carried out -/

theorem write_eq_ok {lines : List String} (h : c.write database name lines = (.ok (), d)) :
    ∃ tables, c.database? database = some tables ∧
      tables.contains (storedName name) = true ∧
      d = c.put database (tables.insert (storedName name) lines) := by
  unfold Catalog.write at h
  split at h
  · cases h
  · next tables hfound =>
      split at h
      · next hcontains =>
          cases h
          exact ⟨tables, hfound, hcontains, rfl⟩
      · cases h

theorem createTable_eq_ok {header : List String}
    (h : c.createTable database name header = (.ok (), d)) :
    ∃ tables, c.database? database = some tables ∧
      tables.contains (storedName name) = false ∧
      d = c.put database (tables.insert (storedName name) [Row.toLine header]) := by
  unfold Catalog.createTable at h
  split at h
  · cases h
  · next tables hfound =>
      split at h
      · cases h
      · next hfree =>
          cases h
          exact ⟨tables, hfound, Bool.eq_false_iff.mpr hfree, rfl⟩

theorem dropTable_eq_ok (h : c.dropTable database name = (.ok (), d)) :
    ∃ tables, c.database? database = some tables ∧
      tables.contains (storedName name) = true ∧
      d = c.put database (tables.erase (storedName name)) := by
  unfold Catalog.dropTable at h
  split at h
  · cases h
  · next tables hfound =>
      split at h
      · next hcontains =>
          cases h
          exact ⟨tables, hfound, hcontains, rfl⟩
      · cases h

theorem createDatabase_eq_ok (h : c.createDatabase database = (.ok (), d)) :
    c.database? database = none ∧ d = c.put database .empty := by
  unfold Catalog.createDatabase at h
  split at h
  · cases h
  · next hfree =>
      cases h
      exact ⟨Option.not_isSome_iff_eq_none.mp hfree, rfl⟩

theorem dropDatabase_eq_ok (h : c.dropDatabase database = (.ok (), d)) :
    (∃ tables, c.database? database = some tables) ∧
      d = ⟨c.databases.erase (storedName database)⟩ := by
  unfold Catalog.dropDatabase at h
  split at h
  · next hfound =>
      cases h
      exact ⟨Dict.contains_iff.mp hfound, rfl⟩
  · cases h

/-! ## What holds of everything that is kept -/

/-- Every database has a key of one kind, and every table a key and lines of another. -/
structure Every (Key : String → Prop) (Kept : String → List String → Prop) (c : Catalog) :
    Prop where
  database : ∀ {key tables}, c.databases.get? key = some tables → Key key
  table : ∀ {key tables name lines}, c.databases.get? key = some tables →
    tables.get? name = some lines → Kept name lines

section

variable {Key : String → Prop} {Kept : String → List String → Prop}

theorem every_empty : empty.Every Key Kept where
  database := fun h => by cases h
  table := fun h => by cases h

theorem Every.mono {Key' : String → Prop} {Kept' : String → List String → Prop}
    (h : c.Every Key Kept) (hkey : ∀ {key}, Key key → Key' key)
    (hkept : ∀ {name lines}, Kept name lines → Kept' name lines) : c.Every Key' Kept' where
  database := fun hfound => hkey (h.database hfound)
  table := fun hfound hlines => hkept (h.table hfound hlines)

theorem Every.put (h : c.Every Key Kept) {tables : Dict (List String)}
    (hdatabase : Key (storedName database))
    (htables : ∀ {name lines}, tables.get? name = some lines → Kept name lines) :
    (c.put database tables).Every Key Kept := by
  constructor
  · intro key found hfound
    rw [Catalog.put, Dict.get?_insert] at hfound
    split at hfound
    · next heq =>
        rw [heq]
        exact hdatabase
    · exact h.database hfound
  · intro key found other lines hfound hlines
    rw [Catalog.put, Dict.get?_insert] at hfound
    split at hfound
    · cases hfound
      exact htables hlines
    · exact h.table hfound hlines

theorem Every.insertTable (h : c.Every Key Kept) {tables : Dict (List String)}
    (hfound : c.database? database = some tables) {lines : List String}
    (hlines : Kept (storedName name) lines) :
    (c.put database (tables.insert (storedName name) lines)).Every Key Kept := by
  apply h.put (h.database hfound)
  intro other found hother
  rw [Dict.get?_insert] at hother
  split at hother
  · next heq =>
      cases hother
      rw [heq]
      exact hlines
  · exact h.table hfound hother

theorem Every.write (h : c.Every Key Kept) {lines : List String}
    (hlines : Kept (storedName name) lines) :
    (c.write database name lines).2.Every Key Kept := by
  unfold Catalog.write
  split
  · exact h
  · next tables hfound =>
      split
      · exact h.insertTable hfound hlines
      · exact h

theorem Every.createTable (h : c.Every Key Kept) {header : List String}
    (hheader : Kept (storedName name) [Row.toLine header]) :
    (c.createTable database name header).2.Every Key Kept := by
  unfold Catalog.createTable
  split
  · exact h
  · next tables hfound =>
      split
      · exact h
      · exact h.insertTable hfound hheader

theorem Every.dropTable (h : c.Every Key Kept) (database name : String) :
    (c.dropTable database name).2.Every Key Kept := by
  unfold Catalog.dropTable
  split
  · exact h
  · next tables hfound =>
      split
      · apply h.put (h.database hfound)
        intro other lines hother
        rw [Dict.get?_erase] at hother
        split at hother
        · cases hother
        · exact h.table hfound hother
      · exact h

theorem Every.createDatabase (h : c.Every Key Kept) (hdatabase : Key (storedName database)) :
    (c.createDatabase database).2.Every Key Kept := by
  unfold Catalog.createDatabase
  split
  · exact h
  · exact h.put hdatabase fun hlines => by cases hlines

theorem Every.dropDatabase (h : c.Every Key Kept) (database : String) :
    (c.dropDatabase database).2.Every Key Kept := by
  unfold Catalog.dropDatabase
  split
  · have hkept : ∀ {key tables}, (c.databases.erase (storedName database)).get? key =
        some tables → c.databases.get? key = some tables := by
      intro key tables hkey
      rw [Dict.get?_erase] at hkey
      split at hkey
      · cases hkey
      · exact hkey
    exact ⟨fun hfound => h.database (hkept hfound),
      fun hfound hlines => h.table (hkept hfound) hlines⟩
  · exact h

end

/-! ## What stays as it was -/

/-- All databases but one are kept with the same tables, or are not there. -/
def SameBeside (key : String) (c d : Catalog) : Prop :=
  ∀ other, other ≠ key → d.databases.get? other = c.databases.get? other

/-- A database is there before and after, and nothing differs but one table of it. -/
structure SameBesideTable (database name : String) (c d : Catalog) : Prop where
  databases : SameBeside (storedName database) c d
  tables : ∃ before after, c.database? database = some before ∧
    d.database? database = some after ∧
    ∀ other, other ≠ storedName name → after.get? other = before.get? other

@[simp] theorem database?_put (c : Catalog) (database : String) (tables : Dict (List String)) :
    (c.put database tables).database? database = some tables :=
  Dict.get?_insert_self _ _ _

@[simp] theorem database?_erase (c : Catalog) (database : String) :
    (Catalog.mk (c.databases.erase (storedName database))).database? database = none := by
  rw [database?, Dict.get?_erase, if_pos rfl]

theorem sameBeside_put (c : Catalog) (database : String) (tables : Dict (List String)) :
    SameBeside (storedName database) c (c.put database tables) := by
  intro other hother
  rw [Catalog.put, Dict.get?_insert, if_neg hother]

theorem sameBeside_erase (c : Catalog) (key : String) :
    SameBeside key c ⟨c.databases.erase key⟩ := by
  intro other hother
  rw [Dict.get?_erase, if_neg hother]

/-- The tables of a database are replaced by such that differ in one table. -/
theorem sameBesideTable_put {before after : Dict (List String)}
    (hfound : c.database? database = some before)
    (hother : ∀ other, other ≠ storedName name → after.get? other = before.get? other) :
    c.SameBesideTable database name (c.put database after) where
  databases := sameBeside_put c database after
  tables := ⟨before, after, hfound, database?_put c database after, hother⟩

theorem sameBesideTable_insert {tables : Dict (List String)}
    (hfound : c.database? database = some tables) (lines : List String) :
    c.SameBesideTable database name (c.put database (tables.insert (storedName name) lines)) := by
  apply sameBesideTable_put hfound
  intro other hother
  rw [Dict.get?_insert, if_neg hother]

theorem sameBesideTable_of_write {lines : List String}
    (h : c.write database name lines = (.ok (), d)) : c.SameBesideTable database name d := by
  obtain ⟨tables, hfound, _, rfl⟩ := write_eq_ok h
  exact sameBesideTable_insert hfound lines

theorem sameBesideTable_of_createTable {header : List String}
    (h : c.createTable database name header = (.ok (), d)) :
    c.SameBesideTable database name d := by
  obtain ⟨tables, hfound, _, rfl⟩ := createTable_eq_ok h
  exact sameBesideTable_insert hfound [Row.toLine header]

theorem sameBesideTable_of_dropTable (h : c.dropTable database name = (.ok (), d)) :
    c.SameBesideTable database name d := by
  obtain ⟨tables, hfound, _, rfl⟩ := dropTable_eq_ok h
  apply sameBesideTable_put hfound
  intro other hother
  rw [Dict.get?_erase, if_neg hother]

end TextTables.Catalog
