import TextTables.Proofs.Store.Catalog
import TextTables.Proofs.Store.Directory

/-!
# Lines that are written and read again

A store that carries out a write gives the lines back afterwards, under the name of the table
in any spelling.  A catalog does so for all lines, and a directory for those that are one
line of a file, whatever else is in the tree.
-/

namespace TextTables

/-- What was written is read again as long as its lines are of the kind that is kept, and
spellings of a name make no difference. -/
structure Store.KeepsLines (σ : Type) [Store σ] (IsKept : String → Prop) : Prop where
  read_congr : ∀ (store : σ) (database : String) {name other : String},
    storedName other = storedName name →
    Store.read store database other = Store.read store database name
  read_write : ∀ {store after : σ} {database name : String} {lines : List String},
    Store.write store database name lines = (.ok (), after) →
    (∀ line ∈ lines, IsKept line) → Store.read after database name = lines

theorem Catalog.keepsLines : Store.KeepsLines Catalog fun _ => True where
  read_congr := by
    intro c database name other hother
    change (c.table? database other).getD [] = (c.table? database name).getD []
    rw [table?, table?, hother]
  read_write := by
    intro c d database name lines hwrite _
    obtain ⟨tables, _, _, rfl⟩ := write_eq_ok hwrite
    change ((c.put database (tables.insert (storedName name) lines)).table? database
      name).getD [] = lines
    rw [table?, database?_put]
    exact congrArg (Option.getD · []) (Dict.get?_insert_self _ _ _)

namespace FileTree

variable {tree : FileTree} {path : FilePath}

theorem bytesAt_eq_ok {place : List String} {content : ByteArray}
    (hplace : tree.resolve path = .ok place) (hfound : tree.find? place = some (file content)) :
    tree.bytesAt path = .ok content := by
  rw [bytesAt, lookup_eq_ok_iff.mpr ⟨place, hplace, hfound⟩]
  rfl

/-- The bytes of a file can be replaced, and are then read there. -/
theorem exists_putFile_of_isFile (h : tree.isFile path = true) (content : ByteArray) :
    ∃ changed, tree.putFile path content = .ok changed ∧ changed.bytesAt path = .ok content := by
  obtain ⟨old, hlookup⟩ := isFile_iff.mp h
  obtain ⟨place, hplace, hfound⟩ := lookup_eq_ok_iff.mp hlookup
  refine ⟨tree.put place (file content), ?_, ?_⟩
  · rw [putFile, hplace, ok_bind, hfound]
    rfl
  · have hdirs := (directoriesIn_file old (file content)).put hfound
    exact bytesAt_eq_ok (hdirs.resolve hplace) (find?_put hfound _)

end FileTree

theorem Directory.keepsLines : Store.KeepsLines Directory Text.IsLine where
  read_congr := by
    intro d database name other hother
    change d.read database other = d.read database name
    rw [Directory.read, Directory.read, tablePath, tablePath, hother]
  read_write := by
    intro d e database name lines hwrite hlines
    change d.write database name lines = (.ok (), e) at hwrite
    change e.read database name = lines
    rw [Directory.write] at hwrite
    split at hwrite
    · next hfile =>
        obtain ⟨changed, hput, hbytes⟩ := FileTree.exists_putFile_of_isFile hfile (content lines)
        rw [hput] at hwrite
        cases hwrite
        have hpath : tablePath { d with tree := changed } database name =
            d.tablePath database name := rfl
        rw [Directory.read, hpath, hbytes]
        simp only [Root.strict?_content]
        exact Text.lines_ofLines_eq_self_iff.mpr hlines
    · cases hwrite

end TextTables
