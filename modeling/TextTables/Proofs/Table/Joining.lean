import TextTables.Proofs.Condition.Equality
import TextTables.Table.Query

/-!
# Joined rows

A join goes through the pairs of rows of two tables, the left row varying slowest, and makes
one row of each pair whose rows both have their key cell and agree in it.  Pairs are told
apart by the places of their rows, so rows that are equal count as often as they stand in the
tables.  With the tables exchanged the same pairs are found, the other way around.
-/

namespace TextTables.Table

/-- Two rows with their key cells, which are equal by the rule of joins. -/
def Agree (leftKey rightKey : Nat) (leftRow rightRow : List String) : Prop :=
  ∃ value other, leftRow[leftKey]? = some value ∧ rightRow[rightKey]? = some other ∧
    Comparison.equal value other = true

instance (leftKey rightKey : Nat) (leftRow rightRow : List String) :
    Decidable (Agree leftKey rightKey leftRow rightRow) :=
  decidable_of_iff (leftRow[leftKey]?.any fun value =>
    rightRow[rightKey]?.any (Comparison.equal value)) (by
      simp only [Option.any_eq_true, Agree, exists_and_left])

section

variable (left right : Table) (leftKey rightKey : Nat)

/-- The columns that a join shows of its left table: all but the id and the key. -/
def leftPlaces : List Nat :=
  (List.range left.width).filter fun i => i != 0 && i != leftKey

/-- The columns that a join shows of its right table: all but the key. -/
def rightPlaces : List Nat :=
  (List.range right.width).filter fun i => i != rightKey

/-- The row that a join makes of two rows.  Cells that they do not have are `NULL`. -/
def joinedRow (leftRow rightRow : List String) : List String :=
  Row.cellAt leftRow 0 :: Row.project (left.leftPlaces leftKey) leftRow ++
    Row.project (right.rightPlaces rightKey) rightRow

/-- The header of the rows that a join makes. -/
def joinedHeader (leftName rightName : String) : List String :=
  keyColumn :: left.qualified leftName (left.leftPlaces leftKey) ++
    right.qualified rightName (right.rightPlaces rightKey)

/-- The rows that a join makes, the left row varying slowest. -/
def joinedRows : List (List String) :=
  left.rows.flatMap fun leftRow => right.rows.filterMap
    (joinRows leftKey rightKey (left.leftPlaces leftKey) (right.rightPlaces rightKey) leftRow)

/-- Rows are made of the pairs of rows at these places: of each pair that agrees one, and the
left row varies slowest. -/
structure JoinsInto (pairs : List (Nat × Nat)) (rows : List (List String)) : Prop where
  ordered : pairs.Pairwise (Prod.Lex (· < ·) (· < ·))
  mem_iff : ∀ i j, (i, j) ∈ pairs ↔ ∃ leftRow rightRow, left.rows[i]? = some leftRow ∧
    right.rows[j]? = some rightRow ∧ Agree leftKey rightKey leftRow rightRow
  made : List.Forall₂ (fun pair row => ∃ leftRow rightRow,
    left.rows[pair.1]? = some leftRow ∧ right.rows[pair.2]? = some rightRow ∧
      row = left.joinedRow right leftKey rightKey leftRow rightRow) pairs rows

end

variable {left right : Table} {leftKey rightKey : Nat}

theorem agree_comm {leftRow rightRow : List String} :
    Agree leftKey rightKey leftRow rightRow ↔ Agree rightKey leftKey rightRow leftRow := by
  constructor
  · rintro ⟨value, other, hvalue, hother, hequal⟩
    exact ⟨other, value, hother, hvalue, Comparison.equal_comm value other ▸ hequal⟩
  · rintro ⟨value, other, hvalue, hother, hequal⟩
    exact ⟨other, value, hother, hvalue, Comparison.equal_comm value other ▸ hequal⟩

theorem length_joinedRow (leftName rightName : String) (leftRow rightRow : List String) :
    (left.joinedRow right leftKey rightKey leftRow rightRow).length =
      (left.joinedHeader right leftKey rightKey leftName rightName).length := by
  simp [joinedRow, joinedHeader, qualified, Row.project]

theorem joinRows_eq (leftRow rightRow : List String) :
    joinRows leftKey rightKey (left.leftPlaces leftKey) (right.rightPlaces rightKey) leftRow
        rightRow =
      if Agree leftKey rightKey leftRow rightRow then
        some (left.joinedRow right leftKey rightKey leftRow rightRow)
      else none := by
  unfold joinRows
  split
  · next value other hvalue hother =>
      have hagree : Agree leftKey rightKey leftRow rightRow ↔
          Comparison.equal value other = true := by
        simp [Agree, hvalue, hother]
      simp only [hagree]
      rfl
  · next hmissing =>
      rw [if_neg]
      rintro ⟨value, other, hvalue, hother, _⟩
      exact hmissing value other hvalue hother

/-! ## Pairs of places -/

section

variable {α β γ : Type}

/-- The pairs of entries of two lists with their places, the left one varying slowest. -/
def placedPairs (as : List α) (bs : List β) : List ((α × Nat) × (β × Nat)) :=
  as.zipIdx ×ˢ bs.zipIdx

/-- Nested loops over two lists go through the pairs of their entries in order. -/
theorem flatMap_filterMap_eq (p : α → β → Prop) [∀ a b, Decidable (p a b)] (f : α → β → γ)
    (as : List α) (bs : List β) :
    (as.flatMap fun a => bs.filterMap fun b => if p a b then some (f a b) else none) =
      ((placedPairs as bs).filter fun pair => p pair.1.1 pair.2.1).map
        fun pair => f pair.1.1 pair.2.1 := by
  have hinner : ∀ a, (bs.filterMap fun b => if p a b then some (f a b) else none) =
      (bs.zipIdx.filter fun b => p a b.1).map fun b => f a b.1 := by
    intro a
    rw [← List.filterMap_eq_map, ← List.filterMap_eq_filter, List.filterMap_filterMap]
    conv_lhs => rw [← List.zipIdx_map_fst 0 bs, List.filterMap_map]
    refine List.filterMap_congr fun b _ => ?_
    by_cases hp : p a b.1
    · simp [hp, Option.guard]
    · simp [hp, Option.guard]
  simp only [hinner]
  conv_lhs => rw [← List.zipIdx_map_fst 0 as, List.flatMap_map]
  change _ = ((as.zipIdx.flatMap fun a => bs.zipIdx.map (Prod.mk a)).filter _).map _
  rw [List.filter_flatMap, List.map_flatMap]
  refine List.flatMap_congr fun a _ => ?_
  rw [List.filter_map, List.map_map]
  rfl

theorem mem_placedPairs_iff {as : List α} {bs : List β} {a : α} {b : β} {i j : Nat} :
    ((a, i), (b, j)) ∈ placedPairs as bs ↔ as[i]? = some a ∧ bs[j]? = some b := by
  rw [placedPairs, List.mem_product, List.mk_mem_zipIdx_iff_getElem?,
    List.mk_mem_zipIdx_iff_getElem?]

theorem pairwise_placedPairs (as : List α) (bs : List β) :
    (placedPairs as bs).Pairwise fun pair other =>
      Prod.Lex (· < ·) (· < ·) (pair.1.2, pair.2.2) (other.1.2, other.2.2) := by
  have hrising : ∀ {δ : Type} (l : List δ), l.zipIdx.Pairwise fun x y => x.2 < y.2 := by
    intro δ l
    rw [← List.pairwise_map (f := Prod.snd) (R := (· < ·)), List.zipIdx_map_snd]
    exact List.pairwise_lt_range' 1
  change (as.zipIdx.flatMap fun a => bs.zipIdx.map (Prod.mk a)).Pairwise _
  rw [List.pairwise_flatMap]
  constructor
  · intro a _
    rw [List.pairwise_map]
    refine (hrising bs).imp fun hlt => ?_
    exact Prod.Lex.right _ hlt
  · refine (hrising as).imp fun hlt => ?_
    intro x hx y hy
    obtain ⟨_, _, rfl⟩ := List.mem_map.mp hx
    obtain ⟨_, _, rfl⟩ := List.mem_map.mp hy
    exact Prod.Lex.left _ _ hlt

end

/-! ## Joins -/

/-- The rows of a join are made of the pairs of rows that agree. -/
theorem exists_joinsInto (left right : Table) (leftKey rightKey : Nat) :
    ∃ pairs, left.JoinsInto right leftKey rightKey pairs
      (left.joinedRows right leftKey rightKey) := by
  let found := (placedPairs left.rows right.rows).filter fun pair =>
    Agree leftKey rightKey pair.1.1 pair.2.1
  have hrows : left.joinedRows right leftKey rightKey =
      found.map fun pair => left.joinedRow right leftKey rightKey pair.1.1 pair.2.1 := by
    rw [← flatMap_filterMap_eq]
    simp only [← joinRows_eq]
    rfl
  refine ⟨found.map fun pair => (pair.1.2, pair.2.2), ?_, ?_, ?_⟩
  · rw [List.pairwise_map]
    exact (pairwise_placedPairs _ _).filter _
  · intro i j
    constructor
    · intro hmem
      obtain ⟨⟨⟨leftRow, i'⟩, ⟨rightRow, j'⟩⟩, hpair, heq⟩ := List.mem_map.mp hmem
      cases heq
      obtain ⟨hplaced, hagree⟩ := List.mem_filter.mp hpair
      obtain ⟨hleft, hright⟩ := mem_placedPairs_iff.mp hplaced
      exact ⟨leftRow, rightRow, hleft, hright, of_decide_eq_true hagree⟩
    · rintro ⟨leftRow, rightRow, hleft, hright, hagree⟩
      have hplaced := mem_placedPairs_iff.mpr ⟨hleft, hright⟩
      exact List.mem_map.mpr ⟨_, List.mem_filter.mpr ⟨hplaced, decide_eq_true hagree⟩, rfl⟩
  · rw [hrows, List.forall₂_map_left_iff, List.forall₂_map_right_iff, List.forall₂_same]
    rintro ⟨⟨leftRow, i⟩, ⟨rightRow, j⟩⟩ hpair
    obtain ⟨hleft, hright⟩ := mem_placedPairs_iff.mp (List.mem_filter.mp hpair).1
    exact ⟨leftRow, rightRow, hleft, hright, rfl⟩

namespace JoinsInto

variable {pairs : List (Nat × Nat)} {rows : List (List String)}

theorem nodup (h : left.JoinsInto right leftKey rightKey pairs rows) : pairs.Nodup :=
  h.ordered.imp fun hlex heq => by
    rw [heq] at hlex
    exact (irrefl _ hlex)

/-- With the tables exchanged the pairs are the same ones, the other way around. -/
theorem perm_map_swap (h : left.JoinsInto right leftKey rightKey pairs rows)
    {others : List (Nat × Nat)} {otherRows : List (List String)}
    (hother : right.JoinsInto left rightKey leftKey others otherRows) :
    others.Perm (pairs.map Prod.swap) := by
  rw [List.perm_ext_iff_of_nodup hother.nodup (h.nodup.map Prod.swap_injective)]
  rintro ⟨j, i⟩
  have hswapped : (j, i) ∈ pairs.map Prod.swap ↔ (i, j) ∈ pairs := by
    rw [List.mem_map]
    constructor
    · rintro ⟨pair, hpair, heq⟩
      cases heq
      exact hpair
    · exact fun hpair => ⟨(i, j), hpair, rfl⟩
  rw [hswapped, hother.mem_iff, h.mem_iff]
  constructor
  · rintro ⟨rightRow, leftRow, hright, hleft, hagree⟩
    exact ⟨leftRow, rightRow, hleft, hright, agree_comm.mp hagree⟩
  · rintro ⟨leftRow, rightRow, hleft, hright, hagree⟩
    exact ⟨rightRow, leftRow, hright, hleft, agree_comm.mp hagree⟩

theorem length_eq (h : left.JoinsInto right leftKey rightKey pairs rows) :
    rows.length = pairs.length :=
  h.made.length_eq.symm

end JoinsInto

theorem join_eq_ok {leftColumn rightColumn : String} (leftName rightName : String)
    (hleft : left.columnIndex? leftColumn = some leftKey)
    (hright : right.columnIndex? rightColumn = some rightKey) :
    left.join right leftName rightName leftColumn rightColumn =
      .ok ⟨left.joinedHeader right leftKey rightKey leftName rightName,
        left.joinedRows right leftKey rightKey⟩ := by
  rw [join, hleft, hright]
  rfl

/-- A join has a key in each of its tables. -/
theorem exists_keys_of_join_eq_ok {leftName rightName leftColumn rightColumn : String}
    {found : Table} (h : left.join right leftName rightName leftColumn rightColumn = .ok found) :
    ∃ leftKey rightKey, left.columnIndex? leftColumn = some leftKey ∧
      right.columnIndex? rightColumn = some rightKey := by
  unfold join at h
  split at h
  · next leftKey rightKey hleft hright => exact ⟨leftKey, rightKey, hleft, hright⟩
  · cases h

/-- Every joined row has a cell for each heading. -/
theorem length_of_join_eq_ok {leftName rightName leftColumn rightColumn : String} {found : Table}
    (h : left.join right leftName rightName leftColumn rightColumn = .ok found) :
    ∀ row ∈ found.rows, row.length = found.header.length := by
  obtain ⟨leftKey, rightKey, hleft, hright⟩ := exists_keys_of_join_eq_ok h
  rw [join_eq_ok leftName rightName hleft hright] at h
  cases h
  intro row hrow
  obtain ⟨leftRow, _, hrow⟩ := List.mem_flatMap.mp hrow
  obtain ⟨rightRow, _, hmade⟩ := List.mem_filterMap.mp hrow
  rw [joinRows_eq] at hmade
  split at hmade
  · cases hmade
    exact length_joinedRow leftName rightName leftRow rightRow
  · cases hmade

end TextTables.Table
