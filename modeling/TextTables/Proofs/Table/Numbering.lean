import TextTables.Proofs.Table.Change
import TextTables.Proofs.Table.Damage

/-!
# Ids of rows that are added

A row that is added is given the id after that of the last row.  Rows that statements add
stand in the order of their ids, but lines that come from elsewhere may list their rows in
any order: then the id that follows the last one need not follow the largest one, and it may
be there already.
-/

namespace TextTables.Table

variable {t changed : Table} {ids : List Int} {last : Int}

/-! ## Ids that rows have -/

/-- The number in the first cell of a row. -/
def idOf? (row : List String) : Option Int :=
  row.head?.bind fun cell => Whole.signed? (Text.trim cell)

/-- The rows begin with these numbers, in any order and in any spelling. -/
def Numbered (t : Table) (ids : List Int) : Prop :=
  t.rows.map idOf? = ids.map some

instance (t : Table) (ids : List Int) : Decidable (t.Numbered ids) :=
  inferInstanceAs (Decidable (_ = _))

theorem idOf?_toText_cons {id : Int} (hlow : Whole.smallestSigned ≤ id)
    (hhigh : id ≤ Whole.largestSigned) (cells : List String) :
    idOf? (Whole.toText id :: cells) = some id := by
  rw [idOf?, List.head?_cons, Option.bind_some, Whole.signed?_trim_toText hlow hhigh]

theorem Numbered.isSome_idOf? (h : t.Numbered ids) {row : List String} (hrow : row ∈ t.rows) :
    (idOf? row).isSome = true := by
  have hmem : idOf? row ∈ t.rows.map idOf? := List.mem_map_of_mem hrow
  rw [h] at hmem
  obtain ⟨id, _, hid⟩ := List.mem_map.mp hmem
  rw [← hid]
  rfl

theorem Numbered.exists_getLast? (h : t.Numbered (ids ++ [last])) :
    ∃ row, t.rows.getLast? = some row ∧ idOf? row = some last := by
  have hlast := congrArg List.getLast? h
  rw [List.getLast?_map, List.getLast?_map, List.getLast?_concat] at hlast
  exact Option.map_eq_some_iff.mp hlast

theorem Numbered.nextId?_eq (h : t.Numbered (ids ++ [last])) :
    t.nextId? = Whole.next? last := by
  obtain ⟨row, hrow, hid⟩ := h.exists_getLast?
  have hnext : t.nextId? = (idOf? row).bind Whole.next? := by
    rw [nextId?, hrow, idOf?, Option.bind_assoc]
    rfl
  rw [hnext, hid, Option.bind_some]

/-- A number that a row begins with fits. -/
theorem Numbered.smallestSigned_le (h : t.Numbered (ids ++ [last])) :
    Whole.smallestSigned ≤ last := by
  obtain ⟨row, _, hrow⟩ := h.exists_getLast?
  obtain ⟨cell, _, hcell⟩ := Option.bind_eq_some_iff.mp hrow
  exact (Whole.bounds_of_signed? hcell).1

/-- A row that is added begins with the number after the last one. -/
theorem Numbered.insert (h : t.Numbered (ids ++ [last])) {values : List String}
    (ht : t.insert values = .ok changed) :
    changed = { t with
        rows := t.rows ++ [Whole.toText (last + 1) :: values.map Token.stripQuotes] } ∧
      changed.Numbered (ids ++ [last] ++ [last + 1]) := by
  obtain ⟨_, next, hnext, rfl⟩ := insert_eq_ok_iff.mp ht
  rw [h.nextId?_eq] at hnext
  obtain ⟨hlt, rfl⟩ := Whole.next?_eq_some_iff.mp hnext
  refine ⟨rfl, ?_⟩
  have hlow := h.smallestSigned_le
  rw [Numbered, List.map_append, List.map_append, h, List.map_singleton, List.map_singleton,
    idOf?_toText_cons (by omega) (by omega)]

/-! ## Lines of such tables -/

theorem header_ne_nil_of_ofLines? {lines : List String} (h : ofLines? lines = some t) :
    t.header ≠ [] := by
  cases lines with
  | nil => cases h
  | cons first rest =>
      cases h
      refine List.ne_nil_of_length_pos ?_
      rw [Row.length_ofLine]
      exact Nat.succ_pos _

/-- A row that begins with a number is not lost on a line. -/
theorem Numbered.encodable (h : t.Numbered ids) (hne : t.header ≠ [])
    (hheader : ∀ heading ∈ t.header, Row.TabFree heading)
    (hrows : ∀ row ∈ t.rows, ∀ cell ∈ row, Row.TabFree cell) : t.Encodable where
  header_ne_nil := hne
  header_tabFree := hheader
  row_ne_nil := by
    rintro row hrow rfl
    cases h.isSome_idOf? hrow
  row_ne_blank := by
    rintro row hrow rfl
    cases h.isSome_idOf? hrow
  row_tabFree := hrows

/-- A table that was read and given a row more is read again from its lines. -/
theorem Numbered.ofLines?_toLines_append {lines : List String} (hlines : ofLines? lines = some t)
    {row : List String} (hrow : ∀ cell ∈ row, Row.TabFree cell)
    (h : Numbered { t with rows := t.rows ++ [row] } ids) :
    ofLines? (toLines { t with rows := t.rows ++ [row] }) =
      some { t with rows := t.rows ++ [row] } := by
  obtain ⟨hheader, hrows⟩ := tabFree_of_ofLines? hlines
  have hne : t.header ≠ [] := header_ne_nil_of_ofLines? hlines
  refine ofLines?_toLines (h.encodable hne hheader ?_)
  exact List.forall_mem_append.mpr ⟨hrows, List.forall_mem_singleton.mpr hrow⟩

/-- The lines of a table with a row more are those of the table, without the empty ones, and
the line of the row. -/
theorem toLines_append_row {lines : List String} (hlines : ofLines? lines = some t)
    (row : List String) {line : String}
    (hline : line ∈ toLines { t with rows := t.rows ++ [row] }) :
    line ∈ lines ∨ line = Row.toLine row := by
  cases lines with
  | nil => cases hlines
  | cons first rest =>
      cases hlines
      rw [toLines, List.map_cons, List.map_append, List.map_map, Row.toLine_ofLine] at hline
      rcases List.mem_cons.mp hline with rfl | hline
      · exact Or.inl List.mem_cons_self
      · rcases List.mem_append.mp hline with hline | hline
        · obtain ⟨old, hold, rfl⟩ := List.mem_map.mp hline
          rw [Function.comp_apply, Row.toLine_ofLine]
          exact Or.inl (List.mem_cons_of_mem _ (List.mem_filter.mp hold).1)
        · exact Or.inr (List.mem_singleton.mp hline)

/-! ## Ids that rows are given -/

/-- As many numbers as asked for, one after another, the first of them after this one. -/
def following (last : Int) (count : Nat) : List Int :=
  (List.range count).map fun place : Nat => last + 1 + (place : Int)

theorem following_succ (last : Int) (count : Nat) :
    following last (count + 1) = (last + 1) :: following (last + 1) count := by
  rw [following, List.range_succ_eq_map, List.map_cons, List.map_map, following]
  congr 1
  · simp
  · refine List.map_congr_left fun place _ => ?_
    rw [Function.comp_apply, Nat.cast_succ]
    omega

theorem mem_following_iff {count : Nat} {id : Int} :
    id ∈ following last count ↔ last < id ∧ id ≤ last + count := by
  rw [following, List.mem_map]
  constructor
  · rintro ⟨place, hplace, rfl⟩
    have hlt := List.mem_range.mp hplace
    omega
  · rintro ⟨hlow, hhigh⟩
    exact ⟨(id - last - 1).toNat, List.mem_range.mpr (by omega), by omega⟩

theorem nodup_following (last : Int) (count : Nat) : (following last count).Nodup := by
  refine List.Nodup.map (fun a b hab => ?_) List.nodup_range
  omega

/-- Ids stay distinct exactly if none of them is among those that follow the last one. -/
theorem nodup_append_following_iff {count : Nat} (h : (ids ++ [last]).Nodup) :
    (ids ++ [last] ++ following last count).Nodup ↔
      ∀ id ∈ ids, id ≤ last ∨ last + count < id := by
  rw [List.nodup_append]
  constructor
  · rintro ⟨_, _, hapart⟩ id hid
    have hfree : id ∉ following last count :=
      fun hmem => hapart id (List.mem_append_left _ hid) id hmem rfl
    rw [mem_following_iff] at hfree
    omega
  · intro hfree
    refine ⟨h, nodup_following last count, fun id hid other hother => ?_⟩
    have hother := mem_following_iff.mp hother
    rcases List.mem_append.mp hid with hid | hid
    · have hfree := hfree id hid
      omega
    · rw [List.mem_singleton.mp hid]
      omega

end TextTables.Table
