import TextTables.Proofs.Files.Walk
import TextTables.Store.Directory

/-!
# Opening the directory for databases

The root directory is made where it is missing, with the directories on the way to it.  So
opening adds directories at most: no file is changed or taken away, and nothing at all where
the root directory is there.
-/

namespace TextTables

namespace FilePath

/-- Only empty steps are left out at the end. -/
theorem exists_steps_eq_trimmed (path : FilePath) :
    ∃ count, path.steps = path.trimmed ++ List.replicate count "" := by
  have hall := List.takeWhile_append_dropWhile (p := (· == "")) (l := path.steps.reverse)
  have hempty : ∀ step ∈ (path.steps.reverse.takeWhile (· == "")).reverse, step = "" := by
    intro step hstep
    have hblank := List.mem_takeWhile_imp (List.mem_reverse.mp hstep)
    exact beq_iff_eq.mp hblank
  refine ⟨(path.steps.reverse.takeWhile (· == "")).reverse.length, ?_⟩
  rw [← List.eq_replicate_of_mem hempty, trimmed, ← List.reverse_append, hall,
    List.reverse_reverse]

end FilePath

namespace Spot

theorem walk_of_walk_append_empty {spot reached : Spot} {steps : List String} {count : Nat}
    (h : walk spot (steps ++ List.replicate count "") = .ok reached) :
    walk spot steps = .ok reached := by
  induction count with
  | zero => simpa using h
  | succ count ih =>
      rw [List.replicate_succ', ← List.append_assoc] at h
      exact ih (walk_of_walk_concat_empty h)

end Spot

namespace FileTree

variable {tree other next : FileTree} {path : FilePath}

/-! ## Trees with more directories -/

/-- The other tree has the same files and at least the directories of this one. -/
structure Grows (tree other : FileTree) : Prop where
  files : ∀ place content, other.find? place = some (file content) ↔
    tree.find? place = some (file content)
  directories : tree.DirectoriesIn other

theorem Grows.refl (tree : FileTree) : tree.Grows tree :=
  ⟨fun _ _ => Iff.rfl, fun _ entries h => ⟨entries, h⟩⟩

theorem Grows.trans (h : tree.Grows other) (hnext : other.Grows next) : tree.Grows next where
  files := fun place content => (hnext.files place content).trans (h.files place content)
  directories := by
    intro place entries hentries
    obtain ⟨inside, hinside⟩ := h.directories place entries hentries
    exact hnext.directories place inside hinside

/-- A directory grows where one of its entries does, or where one without entries is
added. -/
theorem grows_insert {entries : List (String × FileTree)} {name : String} {grown : FileTree}
    (hinner : ∀ inner, Assoc.get? entries name = some inner → inner.Grows grown)
    (hnew : Assoc.get? entries name = none → grown = empty) :
    (directory entries).Grows (directory (Assoc.insert name grown entries)) := by
  constructor
  · intro place content
    cases place with
    | nil => simp
    | cons step rest =>
        rw [find?_cons, find?_cons, Assoc.get?_insert]
        by_cases hstep : step = name
        · rw [if_pos hstep, hstep, Option.bind_some]
          cases hname : Assoc.get? entries name with
          | some inner => exact (hinner inner hname).files rest content
          | none =>
              rw [hnew hname, Option.bind_none]
              cases rest with
              | nil => simp [empty]
              | cons _ _ => exact Iff.rfl
        · rw [if_neg hstep]
  · intro place found hfound
    cases place with
    | nil => exact ⟨_, find?_nil _⟩
    | cons step rest =>
        rw [find?_cons] at hfound ⊢
        rw [Assoc.get?_insert]
        by_cases hstep : step = name
        · rw [if_pos hstep]
          rw [hstep] at hfound
          obtain ⟨inner, hname, hrest⟩ := Option.bind_eq_some_iff.mp hfound
          exact (hinner inner hname).directories rest found hrest
        · rw [if_neg hstep]
          exact ⟨found, hfound⟩

theorem grows_put_empty {place : List String} (h : tree.find? place = none) :
    tree.Grows (tree.put place empty) := by
  induction place generalizing tree with
  | nil =>
      rw [find?_nil] at h
      cases h
  | cons name rest ih =>
      cases tree with
      | file content =>
          rw [put, alter]
          exact .refl _
      | directory entries =>
          rw [find?_cons] at h
          cases hname : Assoc.get? entries name with
          | some inner =>
              rw [hname, Option.bind_some] at h
              rw [put_cons hname]
              refine grows_insert (fun other hother => ?_) fun hnone => ?_
              · cases hname.symm.trans hother
                exact ih h
              · cases hname.symm.trans hnone
          | none =>
              cases rest with
              | nil =>
                  rw [put, alter]
                  refine grows_insert (fun other hother => ?_) fun _ => rfl
                  cases hname.symm.trans hother
              | cons step more =>
                  simp only [put, alter, hname]
                  exact .refl _

/-! ## Making directories -/

theorem grows_of_makeDirectory {made : FileTree} (h : tree.makeDirectory path = .ok made) :
    tree.Grows made := by
  rw [makeDirectory] at h
  obtain ⟨_, _, h⟩ := exists_of_bind_eq_ok h
  obtain ⟨place, _, h⟩ := exists_of_bind_eq_ok h
  split at h
  · cases h
  · next hmissing =>
      cases h
      exact grows_put_empty hmissing

theorem grows_makeDirectoryAfter {makeWay : FileTree → Except PlaceFault Unit × FileTree}
    (hway : ∀ tree : FileTree, tree.Grows (makeWay tree).2) (tree : FileTree) (path : FilePath) :
    tree.Grows (makeDirectoryAfter makeWay tree path).2 := by
  unfold makeDirectoryAfter
  simp only
  split
  · next made hmade => exact grows_of_makeDirectory hmade
  · split
    · next fault reached hreached =>
        have hgrows := hway tree
        rwa [hreached] at hgrows
    · next reached hreached =>
        have hgrows := hway tree
        rw [hreached] at hgrows
        split
        · next made hmade => exact hgrows.trans (grows_of_makeDirectory hmade)
        · exact hgrows
  · exact .refl tree

theorem grows_makeWay (base : List String) (steps : List String) (tree : FileTree) :
    tree.Grows (makeWay base steps tree).2 := by
  induction steps generalizing tree with
  | nil => exact .refl tree
  | cons step before ih => exact grows_makeDirectoryAfter ih tree _

theorem grows_makeDirectories (tree : FileTree) (path : FilePath) :
    tree.Grows (tree.makeDirectories path).2 :=
  grows_makeDirectoryAfter (grows_makeWay _ _) tree path

/-- A directory that is there is not made. -/
theorem makeDirectories_of_isDirectory (h : tree.isDirectory path = true) :
    tree.makeDirectories path = (.ok (), tree) := by
  obtain ⟨entries, hlookup⟩ := isDirectory_iff.mp h
  obtain ⟨place, hplace, hfound⟩ := lookup_eq_ok_iff.mp hlookup
  obtain ⟨hcheck, reached, hwalk, rfl⟩ := resolve_eq_ok_iff.mp hplace
  obtain ⟨count, hsteps⟩ := path.exists_steps_eq_trimmed
  rw [hsteps, ← List.append_assoc] at hwalk
  have hoccupied : tree.makeDirectory path = .error .occupied := by
    rw [makeDirectory, hcheck, ok_bind, walk, Spot.walk_of_walk_append_empty hwalk, Except.map,
      ok_bind]
    simp only [hfound]
    rfl
  rw [makeDirectories, makeDirectoryAfter]
  simp only [hoccupied, h, if_true]

end FileTree

namespace Directory

theorem grows_openAt (tree : FileTree) (root : FilePath) : tree.Grows (openAt tree root).2 := by
  have hgrows := tree.grows_makeDirectories root
  unfold openAt
  split
  · next made hmade => rwa [hmade] at hgrows
  · next fault made hmade => rwa [hmade] at hgrows

theorem openAt_eq_of_fst_eq_ok {tree : FileTree} {root : FilePath} {d : Directory}
    (h : (openAt tree root).1 = .ok d) : openAt tree root = (.ok d, d.tree) := by
  unfold openAt at h ⊢
  split at h
  · next made hmade =>
      cases h
      rfl
  · cases h

/-- A root directory that is there is opened as it is. -/
theorem openAt_of_isDirectory {tree : FileTree} {root : FilePath}
    (h : tree.isDirectory root = true) : openAt tree root = (.ok ⟨tree, root⟩, tree) := by
  rw [openAt, FileTree.makeDirectories_of_isDirectory h]

/-- The tables of a database that is there can be listed. -/
theorem exists_tables_of_databaseExists {d : Directory} {database : String}
    (h : d.databaseExists database = true) : ∃ tables, d.tables database = .ok tables := by
  obtain ⟨entries, hlookup⟩ := FileTree.isDirectory_iff.mp h
  obtain ⟨place, hplace, hfound⟩ := FileTree.lookup_eq_ok_iff.mp hlookup
  rw [Directory.tables, entries?, hplace]
  simp only [hfound]
  exact ⟨_, rfl⟩

end Directory

end TextTables
