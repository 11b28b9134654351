import TextTables.Proofs.Comparison.Order
import TextTables.Proofs.Condition.Tests
import TextTables.Proofs.Table.Damage
import TextTables.Proofs.Table.Matching

/-!
# Rows asked for by their id

The id of a row is a whole number, but a condition compares it as it compares all numerals:
by the double nearest to it.  So `id == n` holds for the rows whose ids have the same nearest
double as `n`.  Whole numbers with at most 53 binary digits are doubles themselves, so among
these, and between one of these and any other, ids are told apart.
-/

namespace TextTables

namespace Whole

/-! ## Ids as numerals -/

theorem areDigits_toText_natCast (n : ℕ) : Decimal.areDigits (toText n).toList = true := by
  rw [toList_toText_natCast, Decimal.areDigits_iff]
  exact ⟨Nat.toDigits_ne_nil,
    fun c hc => Nat.isDigit_of_mem_toDigits (by decide) (by decide) hc⟩

theorem ofText?_toText_natCast (n : ℕ) :
    Decimal.ofText? (toText n) = some ⟨false, n, 0⟩ := by
  have hvalue : Decimal.valueOf (toText n).toList = n := by
    rw [toList_toText_natCast]
    exact Nat.ofDigitChars_ten_toDigits
  rw [Decimal.ofText?_of_areDigits (areDigits_toText_natCast n), hvalue]

theorem IsId.areDigits_toText {id : Int} (h : IsId id) :
    Decimal.areDigits (toText id).toList = true := by
  obtain ⟨n, rfl⟩ := Int.eq_ofNat_of_zero_le (Int.le_trans (by decide) h.1)
  exact areDigits_toText_natCast n

theorem IsId.ofText?_toText {id : Int} (h : IsId id) :
    Decimal.ofText? (toText id) = some ⟨false, id.toNat, 0⟩ := by
  obtain ⟨n, rfl⟩ := Int.eq_ofNat_of_zero_le (Int.le_trans (by decide) h.1)
  exact ofText?_toText_natCast n

theorem IsId.toText_inj {id other : Int} (h : IsId id) (hother : IsId other) :
    toText id = toText other ↔ id = other := by
  constructor
  · intro htext
    have hread := h.signed?_trim_toText
    rw [htext, hother.signed?_trim_toText] at hread
    exact (Option.some.inj hread).symm
  · rintro rfl
    rfl

instance (id : Int) : Decidable (IsId id) :=
  inferInstanceAs (Decidable (_ ∧ _))

/-- Two whole numbers with the same nearest double. -/
def SameDouble (id other : Int) : Prop :=
  Double.ofNat id.toNat = Double.ofNat other.toNat

instance (id other : Int) : Decidable (SameDouble id other) :=
  inferInstanceAs (Decidable (_ = _))

/-- An id with at most 53 binary digits shares its double with no other id. -/
theorem IsId.sameDouble_iff {id other : Int} (h : IsId id) (hother : IsId other)
    (hsmall : id < 2 ^ Double.precision ∨ other < 2 ^ Double.precision) :
    SameDouble id other ↔ id = other := by
  obtain ⟨n, rfl⟩ := Int.eq_ofNat_of_zero_le (Int.le_trans (by decide) h.1)
  obtain ⟨m, rfl⟩ := Int.eq_ofNat_of_zero_le (Int.le_trans (by decide) hother.1)
  rw [SameDouble, Int.toNat_natCast, Int.toNat_natCast, Int.natCast_inj]
  rcases hsmall with hn | hm
  · exact Double.ofNat_eq_ofNat_iff (by exact_mod_cast hn)
  · rw [eq_comm, Double.ofNat_eq_ofNat_iff (by exact_mod_cast hm), eq_comm]

theorem IsId.holds_equal {id other : Int} (h : IsId id) (hother : IsId other) :
    Comparison.holds "==" (Text.trim (toText id)) (toText other) =
      decide (SameDouble id other) := by
  have htrim : Text.trim (toText id) = toText id := by
    obtain ⟨n, rfl⟩ := Int.eq_ofNat_of_zero_le (Int.le_trans (by decide) h.1)
    exact trim_toText_natCast n
  rw [htrim, Comparison.holds, h.ofText?_toText, hother.ofText?_toText, Bool.eq_iff_iff,
    decide_eq_true_iff, SameDouble, Double.ofNat, Double.ofNat]
  simp only [(Comparison.numeric_signs _ _).1, beq_iff_eq]

end Whole

/-- The condition `id == n`. -/
def Condition.byId (n : Int) : Condition :=
  .test Table.keyColumn "==" (Whole.toText n)

namespace Table

/-! ## Tables with ids -/

/-- The rows of a table have different ids, in any order, and are as wide as the header, which
begins with the key. -/
structure Identified (t : Table) (ids : List Int) : Prop where
  header : t.header.head? = some keyColumn
  row_length : ∀ row ∈ t.rows, row.length = t.width
  heads : t.rows.map List.head? = ids.map (some ∘ Whole.toText)
  distinct : ids.Nodup
  isId : ∀ id ∈ ids, Whole.IsId id

/-- Tables that are made and changed by statements only are such tables. -/
theorem WellFormed.exists_identified {t : Table} (h : t.WellFormed) :
    ∃ ids, t.Identified ids := by
  obtain ⟨columns, hheader, _⟩ := h.header
  obtain ⟨ids, hids⟩ := h.keyed
  refine ⟨ids, ?_, h.row_length, hids.heads, hids.rising.imp Int.ne_of_lt, hids.isId⟩
  rw [hheader]
  rfl

/-- The rows with an id. -/
def withId (t : Table) (n : Int) : List (List String) :=
  t.rows.filter fun row => row.head? = some (Whole.toText n)

namespace Identified

variable {t : Table} {ids : List Int} {n : Int}

theorem exists_of_mem_rows (h : t.Identified ids) {row : List String} (hrow : row ∈ t.rows) :
    ∃ id ∈ ids, row.head? = some (Whole.toText id) := by
  have hmem : row.head? ∈ t.rows.map List.head? := List.mem_map_of_mem hrow
  rw [h.heads] at hmem
  obtain ⟨id, hid, heq⟩ := List.mem_map.mp hmem
  exact ⟨id, hid, heq.symm⟩

theorem exists_of_mem_ids (h : t.Identified ids) {id : Int} (hid : id ∈ ids) :
    ∃ row ∈ t.rows, row.head? = some (Whole.toText id) := by
  have hmem : some (Whole.toText id) ∈ ids.map (some ∘ Whole.toText) := List.mem_map_of_mem hid
  rw [← h.heads] at hmem
  exact List.mem_map.mp hmem

/-- Where some of the rows are left out, the rest is read again from its lines. -/
theorem ofLines?_toLines_filter (h : t.Identified ids) {lines : List String}
    (ht : ofLines? lines = some t) (kept : List String → Bool) :
    ofLines? { t with rows := t.rows.filter kept }.toLines =
      some { t with rows := t.rows.filter kept } := by
  obtain ⟨hheader, hrows⟩ := tabFree_of_ofLines? ht
  have hhead : ∀ row ∈ t.rows.filter kept, ∃ id, Whole.IsId id ∧
      row.head? = some (Whole.toText id) := by
    intro row hrow
    obtain ⟨id, hid, hhead⟩ := h.exists_of_mem_rows (List.mem_filter.mp hrow).1
    exact ⟨id, h.isId id hid, hhead⟩
  refine ofLines?_toLines ⟨?_, hheader, ?_, ?_, ?_⟩
  · rintro hnil
    have hkey := h.header
    rw [hnil] at hkey
    cases hkey
  · rintro row hrow rfl
    obtain ⟨_, _, hhead⟩ := hhead _ hrow
    cases hhead
  · rintro row hrow rfl
    obtain ⟨id, hid, hhead⟩ := hhead _ hrow
    exact hid.toText_ne_empty (Option.some.inj hhead).symm
  · exact fun row hrow => hrows row (List.mem_filter.mp hrow).1

/-- Where there is a row with an id, there is one only. -/
theorem length_withId (h : t.Identified ids) (hn : Whole.IsId n) :
    (t.withId n).length = if n ∈ ids then 1 else 0 := by
  have hheads : (t.withId n).length =
      (t.rows.map List.head?).countP fun head => head = some (Whole.toText n) := by
    rw [withId, ← List.countP_eq_length_filter, List.countP_map]
    rfl
  have hids : (ids.map (some ∘ Whole.toText)).countP
      (fun head => head = some (Whole.toText n)) = ids.count n := by
    rw [List.countP_map, List.count_eq_countP]
    refine List.countP_congr fun id hid => ?_
    rw [Function.comp_apply, decide_eq_true_iff, beq_iff_eq, Function.comp_apply,
      Option.some_inj, (h.isId id hid).toText_inj hn]
  rw [hheads, h.heads, hids]
  split
  · next hmem => exact List.count_eq_one_of_mem h.distinct hmem
  · next hmem => exact List.count_eq_zero_of_not_mem hmem

theorem holds_byId (h : t.Identified ids) (hn : Whole.IsId n) {row : List String} {id : Int}
    (hid : Whole.IsId id) (hhead : row.head? = some (Whole.toText id)) :
    (Condition.byId n).holds t.header row = decide (Whole.SameDouble id n) := by
  have hcell : Row.under? t.header row keyColumn = some (Whole.toText id) := by
    obtain ⟨columns, hheader⟩ := List.head?_eq_some_iff.mp h.header
    rw [Row.under?, Row.columnIndex?, hheader, List.findIdx?_cons, if_pos (Text.sameWord_refl _),
      Option.bind_some, ← hhead, List.head?_eq_getElem?]
  rw [Condition.byId, Condition.holds_test, hcell, Option.any_some, hid.holds_equal hn]

/-- A row meets `id == n` exactly if its id has the same nearest double as `n`. -/
theorem mem_meeting_byId_iff (h : t.Identified ids) (hn : Whole.IsId n) {row : List String}
    (hrow : row ∈ t.rows) {id : Int} (hid : Whole.IsId id)
    (hhead : row.head? = some (Whole.toText id)) :
    row ∈ t.meeting (.byId n) ↔ Whole.SameDouble id n := by
  rw [mem_meeting_iff hrow, h.holds_byId hn hid hhead, decide_eq_true_iff]

/-- These are the rows with the id `n` exactly if no other id of the table has this double. -/
theorem meeting_byId_eq_withId_iff (h : t.Identified ids) (hn : Whole.IsId n) :
    t.meeting (.byId n) = t.withId n ↔ ∀ id ∈ ids, Whole.SameDouble id n → id = n := by
  constructor
  · intro heq id hid hsame
    obtain ⟨row, hrow, hhead⟩ := h.exists_of_mem_ids hid
    have hmem := (h.mem_meeting_byId_iff hn hrow (h.isId id hid) hhead).mpr hsame
    rw [heq, withId, List.mem_filter, hhead, decide_eq_true_iff, Option.some_inj] at hmem
    exact ((h.isId id hid).toText_inj hn).mp hmem.2
  · intro hother
    refine List.filter_congr fun row hrow => ?_
    obtain ⟨id, hid, hhead⟩ := h.exists_of_mem_rows hrow
    rw [h.holds_byId hn (h.isId id hid) hhead, hhead, decide_eq_decide, Option.some_inj,
      (h.isId id hid).toText_inj hn]
    refine ⟨hother id hid, ?_⟩
    rintro rfl
    rfl

theorem meeting_byId_eq_withId (h : t.Identified ids) (hn : Whole.IsId n)
    (hsmall : n < 2 ^ Double.precision ∨ ∀ id ∈ ids, id < 2 ^ Double.precision) :
    t.meeting (.byId n) = t.withId n := by
  rw [h.meeting_byId_eq_withId_iff hn]
  intro id hid hsame
  exact ((h.isId id hid).sameDouble_iff hn (hsmall.symm.imp_left fun hall => hall id hid)).mp hsame

end Identified

end Table

end TextTables
