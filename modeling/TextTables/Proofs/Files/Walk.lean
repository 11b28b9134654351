import TextTables.Proofs.Files.Place
import TextTables.Proofs.Token.Names
import TextTables.Store.Directory

/-!
# Walking from the root directory

Paths of databases and tables lead from a root directory through one or two names
that stand for nothing but entries.  This file says where they lead, and what is
changed there, whatever tree the root directory stands in and whatever path leads to it.
-/

namespace TextTables

namespace FilePath

/-- A name that means an entry of a directory wherever it is a step. -/
structure IsEntryName (name : String) : Prop where
  ne_empty : name ≠ ""
  ne_dot : name ≠ "."
  ne_up : name ≠ ".."
  short : name.utf8ByteSize ≤ longestName
  slash_not_mem : '/' ∉ name.toList
  nul_not_mem : '\x00' ∉ name.toList

/-- The lower case of a name that is not too long. -/
theorem isEntryName_storedName {name : String} (h : Token.isName name = true)
    (hshort : name.utf8ByteSize ≤ longestName) : IsEntryName (storedName name) := by
  have hname := isName_storedName h
  have hchars := (Token.isName_iff.mp hname).2
  refine ⟨?_, ?_, ?_, ?_, ?_, ?_⟩
  · intro heq
    rw [heq] at hname
    cases hname
  · intro heq
    rw [heq] at hname
    cases hname
  · intro heq
    rw [heq] at hname
    cases hname
  · rwa [utf8ByteSize_storedName h]
  · intro hmem
    exact absurd (hchars _ hmem) (by decide)
  · intro hmem
    exact absurd (hchars _ hmem) (by decide)

variable {name inner : String}

theorem IsEntryName.stepsOf_eq (h : IsEntryName name) : stepsOf name = [name] := by
  rw [stepsOf, List.splitOn_eq_singleton h.slash_not_mem, List.map_singleton,
    String.ofList_toList]

theorem IsEntryName.isAbsolute_eq (h : IsEntryName name) : isAbsolute name = false := by
  rw [isAbsolute, beq_eq_false_iff_ne]
  exact fun hhead => h.slash_not_mem (List.mem_of_head? hhead)

/-- The steps that a name is added behind. -/
def stem (path : FilePath) : List String :=
  if path.steps.getLast? == some "" then path.steps.dropLast else path.steps

/-- The path that leads on through names. -/
def below (path : FilePath) (names : List String) : FilePath :=
  ⟨path.base, path.stem ++ names⟩

theorem IsEntryName.join_eq (h : IsEntryName name) (path : FilePath) :
    path.join name = path.below [name] := by
  rw [join, h.isAbsolute_eq, if_neg Bool.false_ne_true, h.stepsOf_eq]
  rfl

theorem steps_eq_stem (path : FilePath) :
    path.steps = path.stem ∨ path.steps = path.stem ++ [""] := by
  unfold stem
  by_cases hlast : (path.steps.getLast? == some "") = true
  · rw [if_pos hlast]
    exact Or.inr (List.dropLast_append_getLast? _ (beq_iff_eq.mp hlast)).symm
  · rw [if_neg hlast]
    exact Or.inl rfl

theorem stem_subset (path : FilePath) : path.stem ⊆ path.steps := by
  unfold stem
  split
  · exact List.dropLast_subset _
  · exact List.Subset.refl _

/-- Behind a name the next one is simply added. -/
theorem IsEntryName.stem_below (h : IsEntryName name) (path : FilePath) :
    (path.below [name]).stem = path.stem ++ [name] := by
  have hne : (some name == some "") = false :=
    beq_false_of_ne fun heq => h.ne_empty (Option.some.inj heq)
  rw [stem, below, List.getLast?_concat, hne]
  rfl

theorem IsEntryName.join_below (h : IsEntryName name) (hinner : IsEntryName inner)
    (path : FilePath) : (path.below [name]).join inner = path.below [name, inner] := by
  rw [hinner.join_eq, below, h.stem_below, List.append_assoc]
  rfl

/-! ## Lengths of paths -/

theorem length_eq (path : FilePath) :
    path.length = (path.steps.map String.utf8ByteSize).sum + (path.steps.length - 1) := by
  have hfold : ∀ (steps : List String) (start : Nat),
      steps.foldr (fun step total => step.utf8ByteSize + total) start =
        (steps.map String.utf8ByteSize).sum + start := by
    intro steps start
    induction steps with
    | nil => simp
    | cons step rest ih =>
        rw [List.foldr_cons, ih, List.map_cons, List.sum_cons, Nat.add_assoc]
  exact hfold path.steps _

theorem sum_stem_le (path : FilePath) :
    (path.stem.map String.utf8ByteSize).sum ≤ (path.steps.map String.utf8ByteSize).sum ∧
      path.stem.length ≤ path.steps.length := by
  rcases path.steps_eq_stem with hstem | hstem
  · rw [← hstem]
    exact ⟨Nat.le_refl _, Nat.le_refl _⟩
  · rw [hstem, List.map_append, List.sum_append, List.length_append]
    exact ⟨Nat.le_add_right _ _, Nat.le_add_right _ _⟩

theorem sum_names_le {names : List String} (h : ∀ name ∈ names, IsEntryName name) :
    (names.map String.utf8ByteSize).sum ≤ names.length * longestName := by
  induction names with
  | nil => exact Nat.zero_le _
  | cons name rest ih =>
      have hname := (h name List.mem_cons_self).short
      have hrest := ih fun other hother => h other (List.mem_cons_of_mem _ hother)
      rw [List.map_cons, List.sum_cons, List.length_cons, Nat.succ_mul]
      omega

/-- Each name makes a path longer by its bytes and a slash. -/
theorem length_below_le (path : FilePath) {names : List String}
    (h : ∀ name ∈ names, IsEntryName name) :
    (path.below names).length ≤ path.length + names.length * (longestName + 1) := by
  obtain ⟨hsum, hlength⟩ := path.sum_stem_le
  have hnames := sum_names_le h
  rw [length_eq, length_eq, below, List.map_append, List.sum_append, List.length_append,
    Nat.mul_succ]
  omega

end FilePath

namespace Spot

/-- A step that is a name leads into a directory. -/
theorem walk_name {name : String} (h : FilePath.IsEntryName name)
    {above entries : List (String × FileTree)} {rest : List String} :
    walk ⟨above, some (.directory entries)⟩ (name :: rest) =
      walk ⟨(name, .directory entries) :: above, Assoc.get? entries name⟩ rest := by
  have hstay : (name == "" || name == ".") = false := by
    simp [h.ne_empty, h.ne_dot]
  have hup : (name == "..") = false := beq_false_of_ne h.ne_up
  simp only [walk, hstay, hup, Bool.false_eq_true, if_false, if_neg (Nat.not_lt.mpr h.short)]

/-- A step that is empty leads to the directory where it begins. -/
theorem walk_of_walk_concat_empty {spot reached : Spot} {steps : List String}
    (h : walk spot (steps ++ [""]) = .ok reached) : walk spot steps = .ok reached := by
  rw [walk_append] at h
  cases hwalk : walk spot steps with
  | error fault =>
      rw [hwalk] at h
      cases h
  | ok next =>
      rw [hwalk, ok_bind] at h
      obtain ⟨above, found⟩ := next
      cases found with
      | none => cases h
      | some tree =>
          cases tree with
          | file content => cases h
          | directory entries => exact h

end Spot

/-! ## Root directories -/

/-- A tree with a directory for databases in it, which is empty, and a path that leads to
it and is short enough for names below it. -/
structure Root where
  tree : FileTree
  inOrder : tree.InOrder
  path : FilePath
  place : List String
  resolve_eq : tree.resolve path = .ok place
  find?_eq : tree.find? place = some .empty
  room : path.length + 2 * (FilePath.longestName + 1) ≤ FilePath.longestText

namespace Root

open FileTree (find?_append find?_put alter_append put_put)
open FilePath (IsEntryName)

variable {r : Root} {name inner : String} {entries : List (String × FileTree)}

/-- The tree with these entries in the root directory. -/
def filled (r : Root) (entries : List (String × FileTree)) : FileTree :=
  r.tree.put r.place (.directory entries)

theorem check_path (r : Root) : r.path.check = .ok () :=
  (FileTree.resolve_eq_ok_iff.mp r.resolve_eq).1

theorem nul_not_mem (r : Root) :
    (r.path.steps.any fun step => step.toList.contains '\x00') = false := by
  have hcheck := r.check_path
  unfold FilePath.check at hcheck
  split at hcheck
  · cases hcheck
  · next hnul => exact Bool.eq_false_iff.mpr hnul

theorem fits_below (r : Root) {names : List String} (h : ∀ name ∈ names, IsEntryName name)
    (hcount : names.length ≤ 2) : (r.path.below names).fits = true := by
  have hlength := r.path.length_below_le h
  have hroom := r.room
  have hmul := Nat.mul_le_mul_right (FilePath.longestName + 1) hcount
  rw [FilePath.fits, decide_eq_true_eq]
  omega

theorem check_below (r : Root) {names : List String} (h : ∀ name ∈ names, IsEntryName name)
    (hcount : names.length ≤ 2) : (r.path.below names).check = .ok () := by
  have hnul : ((r.path.below names).steps.any fun step => step.toList.contains '\x00') =
      false := by
    rw [List.any_eq_false]
    intro step hstep
    rcases List.mem_append.mp hstep with hstep | hstep
    · exact List.any_eq_false.mp r.nul_not_mem step (r.path.stem_subset hstep)
    · rw [List.contains_eq_mem, decide_eq_true_eq]
      exact (h step hstep).nul_not_mem
  rw [FilePath.check, hnul, r.fits_below h hcount]
  rfl

/-! ## Where paths lead -/

theorem exists_walk_path (r : Root) :
    ∃ reached, Spot.walk ⟨[], some r.tree⟩ (r.path.base ++ r.path.stem) = .ok reached ∧
      reached.place = r.place := by
  obtain ⟨_, reached, hwalk, hplace⟩ := FileTree.resolve_eq_ok_iff.mp r.resolve_eq
  refine ⟨reached, ?_, hplace⟩
  -- A path that ends in a slash has an empty step there, which leads nowhere else.
  rcases r.path.steps_eq_stem with hstem | hstem
  · rwa [← hstem]
  · rw [hstem, ← List.append_assoc] at hwalk
    exact Spot.walk_of_walk_concat_empty hwalk

/-- Whatever is in the root directory, names are walked from there. -/
theorem exists_walk_below (r : Root) (entries : List (String × FileTree)) :
    ∃ above, (above.map Prod.fst).reverse = r.place ∧ ∀ names,
      (r.filled entries).walk (r.path.base ++ (r.path.stem ++ names)) =
        (Spot.walk ⟨above, some (.directory entries)⟩ names).map Spot.place := by
  obtain ⟨reached, hwalk, hplace⟩ := r.exists_walk_path
  -- The steps that lead to the empty directory lead to the filled one: on the way both
  -- trees have the same directories.
  have hempty : Spot.Within r.tree ⟨[], some r.tree⟩ := .top
  have hfilled : Spot.Within (r.filled entries) ⟨[], some (r.filled entries)⟩ := .top
  obtain ⟨_, arrived, harrived, hwithin, hsame⟩ :=
    hempty.walk hfilled rfl ((FileTree.directoriesIn_empty entries).put r.find?_eq) hwalk
  have hfound := hwithin.find?_place
  rw [hsame, hplace, filled, find?_put r.find?_eq] at hfound
  obtain ⟨above, found⟩ := arrived
  cases hfound
  refine ⟨above, hsame.trans hplace, fun names => ?_⟩
  rw [FileTree.walk, ← List.append_assoc, Spot.walk_append, harrived, ok_bind]

theorem walk_database (r : Root) (h : IsEntryName name) :
    (r.filled entries).walk (r.path.base ++ (r.path.stem ++ [name])) =
      .ok (r.place ++ [name]) := by
  obtain ⟨above, hplace, hwalk⟩ := r.exists_walk_below entries
  rw [hwalk, Spot.walk_name h, ← hplace, ← List.reverse_cons]
  rfl

theorem resolve_database (r : Root) (h : IsEntryName name) :
    (r.filled entries).resolve (r.path.below [name]) = .ok (r.place ++ [name]) := by
  rw [FileTree.resolve, r.check_below (by simpa using h) (by simp), ok_bind]
  exact r.walk_database h

/-- The path of a table leads to its place if the database is a directory. -/
theorem resolve_table (r : Root) (h : IsEntryName name) (hinner : IsEntryName inner)
    {found : List (String × FileTree)}
    (hfound : Assoc.get? entries name = some (.directory found)) :
    (r.filled entries).resolve (r.path.below [name, inner]) = .ok (r.place ++ [name, inner]) := by
  obtain ⟨above, hplace, hwalk⟩ := r.exists_walk_below entries
  rw [FileTree.resolve, r.check_below (by simpa using ⟨h, hinner⟩) (by simp), ok_bind]
  refine (hwalk [name, inner]).trans ?_
  rw [Spot.walk_name h, hfound, Spot.walk_name hinner, ← hplace]
  change Except.ok ((inner :: name :: above.map Prod.fst).reverse) = _
  rw [List.reverse_cons, List.reverse_cons, List.append_assoc]
  rfl

theorem resolve_table_missing (r : Root) (h : IsEntryName name) (hinner : IsEntryName inner)
    (hmissing : Assoc.get? entries name = none) :
    (r.filled entries).resolve (r.path.below [name, inner]) = .error .missing := by
  obtain ⟨above, _, hwalk⟩ := r.exists_walk_below entries
  rw [FileTree.resolve, r.check_below (by simpa using ⟨h, hinner⟩) (by simp), ok_bind]
  refine (hwalk [name, inner]).trans ?_
  rw [Spot.walk_name h, hmissing]
  rfl

/-! ## What is there, and changes of it -/

theorem find?_filled (r : Root) (rest : List String) :
    (r.filled entries).find? (r.place ++ rest) = (FileTree.directory entries).find? rest := by
  rw [find?_append, filled, find?_put r.find?_eq, Option.bind_some]

theorem find?_database (r : Root) :
    (r.filled entries).find? (r.place ++ [name]) = Assoc.get? entries name := by
  rw [r.find?_filled, FileTree.find?_cons]
  cases Assoc.get? entries name with
  | none => rfl
  | some tree => exact FileTree.find?_nil tree

theorem find?_table (r : Root) {found : List (String × FileTree)}
    (hfound : Assoc.get? entries name = some (.directory found)) :
    (r.filled entries).find? (r.place ++ [name, inner]) = Assoc.get? found inner := by
  rw [r.find?_filled, FileTree.find?_cons, hfound, Option.bind_some, FileTree.find?_cons]
  cases Assoc.get? found inner with
  | none => rfl
  | some tree => exact FileTree.find?_nil tree

theorem alter_filled (r : Root) (f : Option FileTree → Option FileTree) {rest : List String}
    (hrest : rest ≠ []) {after : List (String × FileTree)}
    (halter : (FileTree.directory entries).alter f rest = .directory after) :
    (r.filled entries).alter f (r.place ++ rest) = r.filled after := by
  rw [filled, alter_append (find?_put r.find?_eq _) f hrest, halter, put_put r.find?_eq]
  rfl

theorem put_database (r : Root) (tree : FileTree) :
    (r.filled entries).put (r.place ++ [name]) tree =
      r.filled (Assoc.insert name tree entries) :=
  r.alter_filled _ (List.cons_ne_nil _ _) (by simp only [FileTree.alter])

theorem erase_database (r : Root) :
    (r.filled entries).erase (r.place ++ [name]) = r.filled (Assoc.erase name entries) :=
  r.alter_filled _ (List.cons_ne_nil _ _) (by simp only [FileTree.alter])

theorem put_table (r : Root) {found : List (String × FileTree)}
    (hfound : Assoc.get? entries name = some (.directory found)) (tree : FileTree) :
    (r.filled entries).put (r.place ++ [name, inner]) tree =
      r.filled (Assoc.insert name (.directory (Assoc.insert inner tree found)) entries) :=
  r.alter_filled _ (List.cons_ne_nil _ _) (by simp only [FileTree.alter, hfound])

theorem erase_table (r : Root) {found : List (String × FileTree)}
    (hfound : Assoc.get? entries name = some (.directory found)) :
    (r.filled entries).erase (r.place ++ [name, inner]) =
      r.filled (Assoc.insert name (.directory (Assoc.erase inner found)) entries) :=
  r.alter_filled _ (List.cons_ne_nil _ _) (by simp only [FileTree.alter, hfound])

/-! ## Files and directories that are made and taken away -/

theorem trimmed_database (r : Root) (h : name ≠ "") :
    (r.path.below [name]).trimmed = r.path.stem ++ [name] := by
  have hkept : (r.path.stem ++ [name]).reverse.dropWhile (· == "") =
      (r.path.stem ++ [name]).reverse := by
    simp [h]
  change ((r.path.stem ++ [name]).reverse.dropWhile (· == "")).reverse = _
  rw [hkept, List.reverse_reverse]

theorem makeDirectory_database (r : Root) (h : IsEntryName name)
    (hmissing : Assoc.get? entries name = none) :
    (r.filled entries).makeDirectory (r.path.below [name]) =
      .ok (r.filled (Assoc.insert name .empty entries)) := by
  rw [FileTree.makeDirectory, r.check_below (by simpa using h) (by simp), ok_bind,
    r.trimmed_database h.ne_empty]
  change ((r.filled entries).walk (r.path.base ++ (r.path.stem ++ [name])) >>= _) = _
  rw [r.walk_database h, ok_bind, r.find?_database, hmissing, ← r.put_database]
  rfl

theorem eraseDirectory?_database (r : Root) (h : IsEntryName name)
    (hempty : Assoc.get? entries name = some (.directory [])) :
    (r.filled entries).eraseDirectory? (r.path.below [name]) =
      some (r.filled (Assoc.erase name entries)) := by
  have hends : (r.path.below [name]).endsInName = true := by
    rw [FilePath.endsInName, r.trimmed_database h.ne_empty]
    simp [h.ne_dot, h.ne_up]
  rw [FileTree.eraseDirectory?, r.resolve_database h]
  simp only [r.find?_database, hempty, hends, if_true, r.erase_database]

variable {found : List (String × FileTree)}

/-- A file is put where there is one, or nothing. -/
theorem putFile_table (r : Root) (h : IsEntryName name) (hinner : IsEntryName inner)
    (hfound : Assoc.get? entries name = some (.directory found))
    (hfree : ∀ inside, Assoc.get? found inner ≠ some (.directory inside)) (bytes : ByteArray) :
    (r.filled entries).putFile (r.path.below [name, inner]) bytes =
      .ok (r.filled
        (Assoc.insert name (.directory (Assoc.insert inner (.file bytes) found)) entries)) := by
  rw [FileTree.putFile, r.resolve_table h hinner hfound, ← r.put_table hfound (.file bytes),
    ok_bind, r.find?_table hfound]
  split
  · next inside hinside => exact absurd hinside (hfree inside)
  · rfl

theorem eraseFile_table (r : Root) (h : IsEntryName name) (hinner : IsEntryName inner)
    (hfound : Assoc.get? entries name = some (.directory found)) {bytes : ByteArray}
    (hfile : Assoc.get? found inner = some (.file bytes)) :
    (r.filled entries).eraseFile (r.path.below [name, inner]) =
      .ok (r.filled (Assoc.insert name (.directory (Assoc.erase inner found)) entries)) := by
  rw [FileTree.eraseFile, r.resolve_table h hinner hfound, ← r.erase_table hfound, ok_bind,
    r.find?_table hfound, hfile]
  rfl

end Root

end TextTables
