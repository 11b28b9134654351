import TextTables.Files.Tree
import TextTables.Proofs.Attempt
import TextTables.Proofs.Dictionary

/-!
# Places in trees of files

A walk stands at a place and knows what is there.  What it does next depends only on
that being a directory, so it goes the same way through any tree with a directory in
each place that it comes through.
-/

namespace TextTables

namespace FileTree

/-! ## What is at a place -/

theorem find?_cons (entries : List (String × FileTree)) (name : String) (rest : List String) :
    (directory entries).find? (name :: rest) =
      (Assoc.get? entries name).bind fun inner => inner.find? rest := by
  rw [find?]
  cases Assoc.get? entries name with
  | none => rfl
  | some inner => rfl

@[simp] theorem find?_nil (tree : FileTree) : tree.find? [] = some tree := by
  rw [find?.eq_def]

theorem find?_append (tree : FileTree) (place rest : List String) :
    tree.find? (place ++ rest) = (tree.find? place).bind fun inner => inner.find? rest := by
  induction place generalizing tree with
  | nil => rw [List.nil_append, find?_nil, Option.bind_some]
  | cons name place ih =>
      cases tree with
      | file content => rfl
      | directory entries =>
          rw [List.cons_append, find?_cons, find?_cons, Option.bind_assoc]
          congr 1
          funext inner
          exact ih inner

/-- The way to a place that is there goes through directories. -/
theorem exists_of_find?_cons {tree found : FileTree} {name : String} {rest : List String}
    (h : tree.find? (name :: rest) = some found) :
    ∃ entries inner, tree = directory entries ∧ Assoc.get? entries name = some inner ∧
      inner.find? rest = some found := by
  cases tree with
  | file content => cases h
  | directory entries =>
      rw [find?_cons] at h
      obtain ⟨inner, hinner, hrest⟩ := Option.bind_eq_some_iff.mp h
      exact ⟨entries, inner, rfl, hinner, hrest⟩

/-! ## Changes at a place -/

theorem alter_nil (f : Option FileTree → Option FileTree) (tree : FileTree) :
    tree.alter f [] = (f (some tree)).getD tree := by
  rw [alter.eq_def]

theorem put_nil (tree inner : FileTree) : tree.put [] inner = inner :=
  alter_nil _ tree

/-- A change on the other side of a directory is a change in it. -/
theorem alter_cons {entries : List (String × FileTree)} {name : String} {inner : FileTree}
    (hinner : Assoc.get? entries name = some inner) (f : Option FileTree → Option FileTree)
    {rest : List String} (hrest : rest ≠ []) :
    (directory entries).alter f (name :: rest) =
      directory (Assoc.insert name (inner.alter f rest) entries) := by
  cases rest with
  | nil => exact absurd rfl hrest
  | cons next more => simp only [alter, hinner]

theorem put_cons {entries : List (String × FileTree)} {name : String} {inner : FileTree}
    (hinner : Assoc.get? entries name = some inner) (rest : List String) (tree : FileTree) :
    (directory entries).put (name :: rest) tree =
      directory (Assoc.insert name (inner.put rest tree) entries) := by
  cases rest with
  | nil => rw [put_nil, put, alter]
  | cons next more => exact alter_cons hinner _ (List.cons_ne_nil next more)

/-- A change below a place is a change of what is there. -/
theorem alter_append {tree found : FileTree} {place : List String}
    (h : tree.find? place = some found) (f : Option FileTree → Option FileTree)
    {rest : List String} (hrest : rest ≠ []) :
    tree.alter f (place ++ rest) = tree.put place (found.alter f rest) := by
  induction place generalizing tree with
  | nil =>
      rw [find?_nil] at h
      cases h
      rw [List.nil_append, put_nil]
  | cons name place ih =>
      obtain ⟨entries, inner, rfl, hinner, hplace⟩ := exists_of_find?_cons h
      have hne : place ++ rest ≠ [] := fun heq => hrest (List.append_eq_nil_iff.mp heq).2
      rw [List.cons_append, alter_cons hinner f hne, ih hplace, put_cons hinner]

theorem find?_put {tree found : FileTree} {place : List String}
    (h : tree.find? place = some found) (inner : FileTree) :
    (tree.put place inner).find? place = some inner := by
  induction place generalizing tree with
  | nil => rw [put_nil, find?_nil]
  | cons name place ih =>
      obtain ⟨entries, next, rfl, hnext, hplace⟩ := exists_of_find?_cons h
      rw [put_cons hnext, find?_cons, Assoc.get?_insert, if_pos rfl, Option.bind_some,
        ih hplace]

theorem put_put {tree found : FileTree} {place : List String}
    (h : tree.find? place = some found) (first second : FileTree) :
    (tree.put place first).put place second = tree.put place second := by
  induction place generalizing tree with
  | nil => rw [put_nil, put_nil]
  | cons name place ih =>
      obtain ⟨entries, inner, rfl, hinner, hplace⟩ := exists_of_find?_cons h
      have hput : Assoc.get? (Assoc.insert name (inner.put place first) entries) name =
          some (inner.put place first) := by
        rw [Assoc.get?_insert, if_pos rfl]
      rw [put_cons hinner, put_cons hinner, put_cons hput, Assoc.insert_insert, ih hplace]

/-- The entries of every directory are in the order of their names. -/
inductive InOrder : FileTree → Prop
  | file (content : ByteArray) : InOrder (.file content)
  | directory {entries : List (String × FileTree)} (hsorted : Assoc.Sorted entries)
      (hinner : ∀ name inner, (name, inner) ∈ entries → InOrder inner) :
      InOrder (.directory entries)

/-- Putting back what is there changes nothing. -/
theorem InOrder.put_self {tree found : FileTree} (horder : tree.InOrder) {place : List String}
    (h : tree.find? place = some found) : tree.put place found = tree := by
  induction place generalizing tree with
  | nil =>
      rw [find?_nil] at h
      cases h
      exact put_nil _ _
  | cons name place ih =>
      obtain ⟨entries, inner, rfl, hinner, hplace⟩ := exists_of_find?_cons h
      obtain _ | ⟨hsorted, hnext⟩ := horder
      have hmem := Assoc.mem_of_get?_eq_some hinner
      rw [put_cons hinner, ih (hnext name inner hmem) hplace, hsorted.insert_self hinner]

/-- Every place of a directory is one in the other tree too. -/
def DirectoriesIn (tree other : FileTree) : Prop :=
  ∀ place entries, tree.find? place = some (directory entries) →
    ∃ inside, other.find? place = some (directory inside)

theorem directoriesIn_empty (entries : List (String × FileTree)) :
    empty.DirectoriesIn (directory entries) := by
  intro place found hfound
  cases place with
  | nil => exact ⟨entries, find?_nil _⟩
  | cons name rest =>
      rw [empty, find?_cons] at hfound
      cases hfound

theorem directoriesIn_file (content : ByteArray) (other : FileTree) :
    (file content).DirectoriesIn other := by
  intro place found hfound
  cases place with
  | nil => cases hfound
  | cons name rest => cases hfound

/-- No directory is taken away where a tree is replaced by one that has its directories. -/
theorem DirectoriesIn.put {tree found inner : FileTree} (hinner : found.DirectoriesIn inner)
    {place : List String} (h : tree.find? place = some found) :
    tree.DirectoriesIn (tree.put place inner) := by
  induction place generalizing tree with
  | nil =>
      rw [find?_nil] at h
      cases h
      rwa [put_nil]
  | cons name place ih =>
      obtain ⟨outer, next, rfl, hnext, hplace⟩ := exists_of_find?_cons h
      intro other entries hentries
      rw [put_cons hnext]
      cases other with
      | nil => exact ⟨_, find?_nil _⟩
      | cons step rest =>
          rw [find?_cons] at hentries ⊢
          rw [Assoc.get?_insert]
          by_cases hstep : step = name
          · rw [if_pos hstep, Option.bind_some]
            rw [hstep, hnext, Option.bind_some] at hentries
            exact ih hplace rest entries hentries
          · rw [if_neg hstep]
            exact ⟨entries, hentries⟩

end FileTree

namespace Spot

/-! ## Walks -/

/-- The spots that a walk through a tree can stand at. -/
inductive Within (tree : FileTree) : Spot → Prop
  | top : Within tree ⟨[], some tree⟩
  | step {above entries : List (String × FileTree)} (name : String)
      (h : Within tree ⟨above, some (.directory entries)⟩) :
      Within tree ⟨(name, .directory entries) :: above, Assoc.get? entries name⟩

theorem place_cons (name : String) (outer : FileTree) (above : List (String × FileTree))
    (found other : Option FileTree) :
    place ⟨(name, outer) :: above, found⟩ = place ⟨above, other⟩ ++ [name] := by
  rw [place, List.map_cons, List.reverse_cons]
  rfl

namespace Within

variable {tree other : FileTree} {spot next : Spot}

theorem find?_place (h : Within tree spot) : tree.find? spot.place = spot.found := by
  induction h with
  | top => exact FileTree.find?_nil tree
  | @step above entries name _ ih =>
      rw [place_cons name _ above _ (some (.directory entries)), FileTree.find?_append, ih,
        Option.bind_some, FileTree.find?_cons]
      cases Assoc.get? entries name with
      | none => rfl
      | some inner => exact FileTree.find?_nil inner

theorem up (h : Within tree spot) : Within tree spot.up := by
  cases h with
  | top => exact .top
  | step name h => exact h

theorem place_up (spot : Spot) : spot.up.place = spot.place.dropLast := by
  unfold Spot.up
  split
  · next hnil =>
      rw [place, hnil]
      rfl
  · next name outer above hcons =>
      obtain ⟨above', found⟩ := spot
      cases hcons
      rw [place_cons name outer above found (some outer), List.dropLast_concat]

/-- A walk that comes through directories goes the same way in another tree that has
directories there. -/
theorem walk {steps : List String} {reached : Spot} (hspot : Within tree spot)
    (hnext : Within other next) (hplace : next.place = spot.place)
    (hdirs : tree.DirectoriesIn other) (h : Spot.walk spot steps = .ok reached) :
    Within tree reached ∧
      ∃ arrived, Spot.walk next steps = .ok arrived ∧ Within other arrived ∧
        arrived.place = reached.place := by
  induction steps generalizing spot next with
  | nil =>
      cases h
      exact ⟨hspot, next, rfl, hnext, hplace⟩
  | cons step rest ih =>
      obtain ⟨above, found⟩ := spot
      obtain ⟨before, seen⟩ := next
      cases found with
      | none => cases h
      | some tree' =>
          cases tree' with
          | file content => cases h
          | directory entries =>
              obtain ⟨inside, hinside⟩ := hdirs _ entries hspot.find?_place
              rw [← hplace, hnext.find?_place] at hinside
              cases hinside
              rw [Spot.walk] at h ⊢
              simp only at h ⊢
              split at h
              · next hstay =>
                  rw [if_pos hstay]
                  exact ih hspot hnext hplace h
              · next hstay =>
                  rw [if_neg hstay]
                  split at h
                  · next hup =>
                      rw [if_pos hup]
                      refine ih hspot.up hnext.up ?_ h
                      rw [place_up, place_up, hplace]
                  · next hup =>
                      rw [if_neg hup]
                      split at h
                      · cases h
                      · next hshort =>
                          rw [if_neg hshort]
                          refine ih (hspot.step step) (hnext.step step) ?_ h
                          rw [place_cons _ _ _ _ (some (.directory inside)), hplace,
                            place_cons _ _ above _ (some (.directory entries))]

end Within

theorem walk_append (spot : Spot) (steps more : List String) :
    walk spot (steps ++ more) = walk spot steps >>= fun reached => walk reached more := by
  induction steps generalizing spot with
  | nil => rfl
  | cons step rest ih =>
      obtain ⟨above, found⟩ := spot
      cases found with
      | none => rfl
      | some tree =>
          cases tree with
          | file content => rfl
          | directory entries =>
              rw [List.cons_append, walk, walk]
              simp only
              split
              · exact ih _
              · split
                · exact ih _
                · split
                  · rfl
                  · exact ih _

end Spot

namespace FileTree

/-! ## Where paths lead -/

theorem resolve_eq_ok_iff {tree : FileTree} {path : FilePath} {place : List String} :
    tree.resolve path = .ok place ↔ path.check = .ok () ∧
      ∃ reached, Spot.walk ⟨[], some tree⟩ (path.base ++ path.steps) = .ok reached ∧
        reached.place = place := by
  rw [resolve, walk]
  cases path.check with
  | error fault => exact iff_of_false (fun h => by cases h) fun h => by cases h.1
  | ok done =>
      rw [ok_bind]
      cases Spot.walk ⟨[], some tree⟩ (path.base ++ path.steps) with
      | error fault => exact iff_of_false (fun h => by cases h) fun ⟨_, _, h, _⟩ => by cases h
      | ok reached => simp [Except.map]

/-- A path leads to the same place in a tree that has the same directories. -/
theorem DirectoriesIn.resolve {tree other : FileTree} (h : tree.DirectoriesIn other)
    {path : FilePath} {place : List String} (hplace : tree.resolve path = .ok place) :
    other.resolve path = .ok place := by
  obtain ⟨hcheck, reached, hwalk, rfl⟩ := resolve_eq_ok_iff.mp hplace
  have htree : Spot.Within tree ⟨[], some tree⟩ := .top
  have hother : Spot.Within other ⟨[], some other⟩ := .top
  obtain ⟨_, arrived, harrived, _, hsame⟩ := htree.walk hother rfl h hwalk
  exact resolve_eq_ok_iff.mpr ⟨hcheck, arrived, harrived, hsame⟩

theorem lookup_eq_ok_iff {tree found : FileTree} {path : FilePath} :
    tree.lookup path = .ok found ↔
      ∃ place, tree.resolve path = .ok place ∧ tree.find? place = some found := by
  rw [lookup]
  cases tree.resolve path with
  | error fault => exact iff_of_false (fun h => by cases h) fun ⟨_, h, _⟩ => by cases h
  | ok place =>
      simp only [ok_bind, Except.ok.injEq, exists_eq_left']
      cases tree.find? place with
      | none => exact iff_of_false (fun h => by cases h) fun h => by cases h
      | some inner => simp [pure, Except.pure]

theorem isFile_iff {tree : FileTree} {path : FilePath} :
    tree.isFile path = true ↔ ∃ content, tree.lookup path = .ok (file content) := by
  rw [isFile]
  split
  · next content hlookup => simp [hlookup]
  · next hother => exact iff_of_false Bool.false_ne_true fun ⟨content, h⟩ => hother content h

theorem isDirectory_iff {tree : FileTree} {path : FilePath} :
    tree.isDirectory path = true ↔ ∃ entries, tree.lookup path = .ok (directory entries) := by
  rw [isDirectory]
  split
  · next entries hlookup => simp [hlookup]
  · next hother => exact iff_of_false Bool.false_ne_true fun ⟨entries, h⟩ => hother entries h

end FileTree

end TextTables
