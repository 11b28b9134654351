import TextTables.Number.Whole
import TextTables.Text.Blank

/-!
# Whole numbers as text

The text of a whole number that is not negative consists of digits.  So it is
not changed by trimming, and the number is read back from it.
-/

namespace TextTables

namespace Text

theorem toNat_bounds_of_isDigit {c : Char} (h : c.isDigit = true) :
    48 ≤ c.toNat ∧ c.toNat ≤ 57 := by
  simp only [Char.isDigit, Bool.and_eq_true, decide_eq_true_eq] at h
  exact ⟨h.1, h.2⟩

/-- No blank character lies among the digits and letters. -/
theorem not_isBlank_of_bounds {c : Char} (hlow : 48 ≤ c.toNat) (hhigh : c.toNat ≤ 122) :
    isBlank c = false := by
  rw [Bool.eq_false_iff]
  intro hblank
  obtain ⟨range, hrange, hfirst, hlast⟩ := inRanges_iff.mp hblank
  simp only [blankRanges, List.mem_cons, List.not_mem_nil, or_false] at hrange
  rcases hrange with rfl | rfl | rfl | rfl | rfl | rfl | rfl | rfl | rfl | rfl <;>
    simp only at hfirst hlast <;> omega

theorem not_isBlank_of_isDigit {c : Char} (h : c.isDigit = true) : isBlank c = false := by
  obtain ⟨hlow, hhigh⟩ := toNat_bounds_of_isDigit h
  exact not_isBlank_of_bounds hlow (Nat.le_trans hhigh (by decide))

theorem dropWhile_isBlank_of_forall_not {cs : List Char}
    (h : ∀ c ∈ cs, isBlank c = false) : cs.dropWhile isBlank = cs := by
  cases cs with
  | nil => rfl
  | cons c rest =>
      have hc := h c List.mem_cons_self
      simp [hc]

theorem trimChars_of_forall_not_isBlank {cs : List Char}
    (h : ∀ c ∈ cs, isBlank c = false) : trimChars cs = cs := by
  have hreverse : ∀ c ∈ cs.reverse, isBlank c = false :=
    fun c hc => h c (List.mem_reverse.mp hc)
  rw [trimChars, dropWhile_isBlank_of_forall_not h,
    dropWhile_isBlank_of_forall_not hreverse, List.reverse_reverse]

end Text

namespace Whole

theorem toList_toText_natCast (n : Nat) : (toText n).toList = Nat.toDigits 10 n :=
  Nat.toList_repr

theorem isDigit_of_mem_toText {n : Nat} {c : Char} (h : c ∈ (toText n).toList) :
    c.isDigit = true := by
  rw [toList_toText_natCast] at h
  exact Nat.isDigit_of_mem_toDigits (by decide) (by decide) h

theorem trim_toText_natCast (n : Nat) : Text.trim (toText n) = toText n := by
  have hkept : Text.trimChars (toText n).toList = (toText n).toList :=
    Text.trimChars_of_forall_not_isBlank fun c hc =>
      Text.not_isBlank_of_isDigit (isDigit_of_mem_toText hc)
  rw [Text.trim, hkept, String.ofList_toList]

/-- Digits have no sign before them. -/
theorem takeSign_of_forall_isDigit {cs : List Char} (h : ∀ c ∈ cs, c.isDigit = true) :
    Decimal.takeSign cs = (false, cs) := by
  unfold Decimal.takeSign
  split
  · next rest =>
      have hplus := h '+' List.mem_cons_self
      cases hplus
  · next rest =>
      have hminus := h '-' List.mem_cons_self
      cases hminus
  · rfl

theorem signed?_toText_natCast {n : Nat} (h : (n : Int) ≤ largestSigned) :
    signed? (toText n) = some (n : Int) := by
  have hdigits : ∀ c ∈ Nat.toDigits 10 n, c.isDigit = true :=
    fun c hc => Nat.isDigit_of_mem_toDigits (by decide) (by decide) hc
  have hare : Decimal.areDigits (Nat.toDigits 10 n) = true := by
    have hne : Nat.toDigits 10 n ≠ [] := Nat.toDigits_ne_nil
    simpa [Decimal.areDigits, hne] using hdigits
  have hvalue : Decimal.valueOf (Nat.toDigits 10 n) = n :=
    Nat.ofDigitChars_ten_toDigits
  have hsmall : smallestSigned ≤ (n : Int) := by
    have : smallestSigned ≤ 0 := by decide
    omega
  simp [signed?, toList_toText_natCast, takeSign_of_forall_isDigit hdigits, hare, hvalue,
    hsmall, h]

theorem toList_toText_negSucc (n : Nat) :
    (toText (.negSucc n)).toList = '-' :: Nat.toDigits 10 (n + 1) := by
  rw [toText, String.toList_append, Nat.toList_repr]
  rfl

theorem signed?_toText_negSucc {n : Nat} (h : smallestSigned ≤ .negSucc n) :
    signed? (toText (.negSucc n)) = some (.negSucc n) := by
  have hne : Nat.toDigits 10 (n + 1) ≠ [] := Nat.toDigits_ne_nil
  have hare : Decimal.areDigits (Nat.toDigits 10 (n + 1)) = true := by
    simpa [Decimal.areDigits, hne] using
      fun c hc => Nat.isDigit_of_mem_toDigits (by decide) (by decide) hc
  have hvalue : Decimal.valueOf (Nat.toDigits 10 (n + 1)) = n + 1 :=
    Nat.ofDigitChars_ten_toDigits
  have hnegated : -Int.ofNat (n + 1) = .negSucc n := rfl
  have hlarge : Int.negSucc n ≤ largestSigned :=
    Int.le_trans (Int.le_of_lt (Int.negSucc_lt_zero n)) (by decide)
  simp only [signed?, toList_toText_negSucc, Decimal.takeSign, hare, hvalue, if_true, hnegated]
  exact if_pos ⟨h, hlarge⟩

theorem trim_toText_negSucc (n : Nat) :
    Text.trim (toText (.negSucc n)) = toText (.negSucc n) := by
  have hkept : Text.trimChars (toText (.negSucc n)).toList = (toText (.negSucc n)).toList := by
    rw [toList_toText_negSucc]
    refine Text.trimChars_of_forall_not_isBlank fun c hc => ?_
    rcases List.mem_cons.mp hc with rfl | hc
    · decide
    · exact Text.not_isBlank_of_isDigit (Nat.isDigit_of_mem_toDigits (by decide) (by decide) hc)
  rw [Text.trim, hkept, String.ofList_toList]

/-- Numbers that fit are read back from their text. -/
theorem signed?_trim_toText {n : Int} (hlow : smallestSigned ≤ n) (hhigh : n ≤ largestSigned) :
    signed? (Text.trim (toText n)) = some n := by
  cases n with
  | ofNat n =>
      rw [Int.ofNat_eq_natCast] at hhigh ⊢
      rw [trim_toText_natCast, signed?_toText_natCast hhigh]
  | negSucc n => rw [trim_toText_negSucc, signed?_toText_negSucc hlow]

theorem bounds_of_signed? {s : String} {n : Int} (h : signed? s = some n) :
    smallestSigned ≤ n ∧ n ≤ largestSigned := by
  simp only [signed?, Option.ite_none_right_eq_some, Option.some.injEq] at h
  obtain ⟨_, hbounds, rfl⟩ := h
  exact hbounds

theorem next?_eq_some_iff {n next : Int} :
    next? n = some next ↔ n < largestSigned ∧ next = n + 1 := by
  rw [next?, Option.ite_none_right_eq_some, Option.some.injEq, eq_comm]

/-- Ids that rows are given: from one up to the largest number that fits. -/
def IsId (id : Int) : Prop :=
  1 ≤ id ∧ id ≤ largestSigned

theorem IsId.signed?_trim_toText {id : Int} (h : IsId id) :
    signed? (Text.trim (toText id)) = some id :=
  Whole.signed?_trim_toText (Int.le_trans (by decide) h.1) h.2

theorem IsId.toText_ne_empty {id : Int} (h : IsId id) : toText id ≠ "" := by
  obtain ⟨n, rfl⟩ := Int.eq_ofNat_of_zero_le (Int.le_trans (by decide) h.1)
  intro hempty
  have hlist := congrArg String.toList hempty
  rw [toList_toText_natCast] at hlist
  exact Nat.toDigits_ne_nil hlist

theorem isId_of_next?_eq_some {id next : Int} (h : IsId id) (hnext : next? id = some next) :
    next = id + 1 ∧ IsId next := by
  obtain ⟨hlt, rfl⟩ := next?_eq_some_iff.mp hnext
  exact ⟨rfl, by unfold IsId at h ⊢; omega⟩

end Whole

end TextTables
