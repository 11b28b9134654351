import TextTables.Proofs.Table.Change

/-!
# Columns under their headings

The first values of a table without a header become its headings, and they are compared as
they are written.  Every other statement looks for a column in any case of its letters, and
takes the first one it finds.  So each column is reached under its own heading exactly if no
two headings are the same word.
-/

namespace TextTables.Table

open Text (sameWord)

variable {t : Table} {column : String} {place : Nat}

/-! ## The header that values make -/

/-- The names of columns among some values.  The key is not one of them. -/
def headings (values : List String) : List String :=
  (values.map Token.stripQuotes).filter fun name => !sameWord name keyColumn

theorem headerOf_go_eq_ok_iff {taken names header : List String} (htaken : taken.Nodup) :
    headerOf.go taken names = .ok header ↔
      (taken.reverse ++ names.filter fun name => !sameWord name keyColumn).Nodup ∧
        header = keyColumn ::
          (taken.reverse ++ names.filter fun name => !sameWord name keyColumn) := by
  induction names generalizing taken with
  | nil =>
      rw [headerOf.go, List.filter_nil, List.append_nil, Except.ok.injEq]
      exact ⟨fun h => ⟨List.nodup_reverse.mpr htaken, h.symm⟩, fun h => h.2.symm⟩
  | cons name rest ih =>
      rw [headerOf.go]
      by_cases hkey : sameWord name keyColumn = true
      · rw [if_pos hkey, List.filter_cons_of_neg (by simp [hkey]), ih htaken]
      · rw [if_neg hkey, List.filter_cons_of_pos (by simpa using hkey)]
        by_cases hmem : name ∈ taken
        · rw [if_pos (List.contains_iff_mem.mpr hmem)]
          refine iff_of_false (fun h => by cases h) fun h => ?_
          exact (List.nodup_append.mp h.1).2.2 name (List.mem_reverse.mpr hmem) name
            List.mem_cons_self rfl
        · rw [if_neg (mt List.contains_iff_mem.mp hmem), ih (List.nodup_cons.mpr ⟨hmem, htaken⟩),
            List.reverse_cons, List.append_assoc, List.singleton_append]

/-- Values make a header unless two headings are the same letter by letter. -/
theorem headerOf_eq_ok_iff {values header : List String} :
    headerOf values = .ok header ↔
      (headings values).Nodup ∧ header = keyColumn :: headings values :=
  headerOf_go_eq_ok_iff List.nodup_nil

theorem avoids_headings {c : Char} (hc : Text.Foreign c) {values : List String}
    (h : Row.Avoids c values) : Row.Avoids c (keyColumn :: headings values) := by
  refine Row.Avoids.cons (fun heading hheading => ?_) (hc.freeOf_of_isName (by decide))
  exact h.map_stripQuotes heading (List.mem_filter.mp hheading).1

/-- No heading is the key, so only the headings are left to compare. -/
theorem pairwise_headings_iff {values : List String} :
    ((keyColumn :: headings values).Pairwise fun a b => sameWord a b = false) ↔
      (headings values).Pairwise fun a b => sameWord a b = false := by
  refine List.pairwise_cons.trans (and_iff_right fun heading hheading => ?_)
  rw [Text.sameWord_comm]
  simpa using (List.mem_filter.mp hheading).2

/-! ## Reaching a column -/

/-- Whatever names the column gets to the one at the place: a query shows it, an update
assigns to it, a condition tests the cells in it, and an alteration takes it out. -/
structure Reaches (t : Table) (column : String) (place : Nat) : Prop where
  found : t.columnIndex? column = some place
  shown : t.places (.columns [column]) = .ok [place]
  assigned : ∀ value, t.targets [(column, value)] = .ok [(place, Token.stripQuotes value)]
  tested : ∀ sign literal row, (Condition.test column sign literal).holds t.header row =
    (row[place]?).any fun cell => Comparison.holds sign (Text.trim cell) literal
  dropped : sameWord column keyColumn = false → t.alter .drop column =
    .ok (padded ⟨t.header.eraseIdx place, t.rows.map (·.eraseIdx place)⟩)

theorem reaches_of_columnIndex? (h : t.columnIndex? column = some place) :
    t.Reaches column place where
  found := h
  shown := by
    rw [places, List.mapM_cons, h]
    rfl
  assigned := by
    intro value
    rw [targets, List.mapM_cons]
    simp only [h]
    rfl
  tested := by
    intro sign literal row
    rw [columnIndex?] at h
    rw [Condition.holds, h, Option.bind_some]
    cases row[place]? with
    | none => rfl
    | some cell => rfl
  dropped := fun hkey => alter_eq_ok_iff.mpr ⟨hkey, .drop h⟩

theorem reaches_iff : t.Reaches column place ↔ t.columnIndex? column = some place :=
  ⟨Reaches.found, reaches_of_columnIndex?⟩

/-- A column is reached under its heading as long as no earlier heading is the same word. -/
theorem reaches_getElem_iff (hplace : place < t.header.length) :
    t.Reaches t.header[place] place ↔
      ∀ earlier ∈ t.header.take place, sameWord earlier t.header[place] = false := by
  rw [reaches_iff, columnIndex?_getElem_iff hplace]
  constructor
  · intro h earlier hearlier
    obtain ⟨other, hother, rfl⟩ := List.mem_take_iff_getElem.mp hearlier
    exact h other (Nat.lt_min.mp hother).1
  · intro h other hother
    exact h _ (List.mem_take_iff_getElem.mpr
      ⟨other, Nat.lt_min.mpr ⟨hother, hother.trans hplace⟩, rfl⟩)

/-- Each column is reached under its own heading. -/
def Addressable (t : Table) : Prop :=
  ∀ place (hplace : place < t.header.length), t.Reaches t.header[place] place

theorem addressable_iff :
    t.Addressable ↔ t.header.Pairwise fun a b => sameWord a b = false := by
  rw [List.pairwise_iff_getElem, Addressable]
  constructor
  · intro h other place hother hplace hlt
    exact (columnIndex?_getElem_iff hplace).mp (h place hplace).found other hlt
  · intro h place hplace
    refine reaches_iff.mpr ((columnIndex?_getElem_iff hplace).mpr fun other hother => ?_)
    exact h other place (hother.trans hplace) hplace hother

end TextTables.Table
