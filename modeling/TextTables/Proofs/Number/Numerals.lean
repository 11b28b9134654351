import Mathlib
import TextTables.Number.Decimal

/-!
# How numerals are written

A numeral is written as a sign or none, the digits of its whole part and, behind a point, those
of its fraction if it has one.  Exactly the texts that are written so are read, each as the
number that it is written for.
-/

namespace TextTables.Decimal

/-- The exact value of a decimal. -/
def value (d : Decimal) : ℚ :=
  (if d.negative then -1 else 1) * (d.digits / 10 ^ d.places)

/-! ## Digits -/

theorem areDigits_iff {cs : List Char} :
    areDigits cs = true ↔ cs ≠ [] ∧ ∀ c ∈ cs, c.isDigit = true := by
  simp [areDigits]

theorem valueOf_concat (cs : List Char) (c : Char) :
    valueOf (cs ++ [c]) = 10 * valueOf cs + (c.toNat - '0'.toNat) := by
  rw [valueOf, List.foldl_append, List.foldl_cons, List.foldl_nil, valueOf]

theorem valueOf_append (cs ds : List Char) :
    valueOf (cs ++ ds) = valueOf cs * 10 ^ ds.length + valueOf ds := by
  induction ds using List.reverseRecOn with
  | nil => rw [List.append_nil, List.length_nil, pow_zero, mul_one]; rfl
  | append_singleton ds d ih =>
      rw [← List.append_assoc, valueOf_concat, ih, valueOf_concat, List.length_append,
        List.length_singleton, pow_succ]
      ring

/-! ## Spellings -/

/-- The parts that a numeral is written with; the sign is a minus, a plus or none. -/
structure Spelling where
  minus : Option Bool
  whole : List Char
  fraction : Option (List Char)
  whole_digits : areDigits whole = true
  fraction_digits : ∀ digits ∈ fraction, areDigits digits = true

namespace Spelling

/-- A sign as it is written. -/
def ofSign : Option Bool → List Char
  | none => []
  | some false => ['+']
  | some true => ['-']

/-- A fraction as it is written. -/
def ofFraction : Option (List Char) → List Char
  | none => []
  | some digits => '.' :: digits

/-- The numeral without its sign. -/
def unsigned (p : Spelling) : List Char :=
  p.whole ++ ofFraction p.fraction

/-- The numeral. -/
def text (p : Spelling) : String :=
  String.ofList (ofSign p.minus ++ p.unsigned)

/-- The number that a numeral is written for. -/
def value (p : Spelling) : ℚ :=
  (if p.minus = some true then -1 else 1) *
    (valueOf p.whole + valueOf (p.fraction.getD []) / 10 ^ (p.fraction.getD []).length)

/-- The decimal that a numeral is written for. -/
def decimal (p : Spelling) : Decimal where
  negative := p.minus == some true
  digits := valueOf (p.whole ++ p.fraction.getD [])
  places := (p.fraction.getD []).length

theorem value_decimal (p : Spelling) : p.decimal.value = p.value := by
  have hpow : (10 : ℚ) ^ (p.fraction.getD []).length ≠ 0 := by positivity
  simp only [Decimal.value, decimal, value, valueOf_append, beq_iff_eq]
  push_cast
  rw [add_div, mul_div_cancel_right₀ _ hpow]

theorem takeSign_ofSign (p : Spelling) :
    takeSign (ofSign p.minus ++ p.unsigned) = (p.minus == some true, p.unsigned) := by
  match hminus : p.minus with
  | some false => rfl
  | some true => rfl
  | none =>
      obtain ⟨hne, hdigits⟩ := areDigits_iff.mp p.whole_digits
      obtain ⟨c, rest, hwhole⟩ := List.exists_cons_of_ne_nil hne
      have hc : c.isDigit = true := hdigits c (hwhole ▸ List.mem_cons_self)
      rw [unsigned, hwhole, ofSign, List.nil_append, List.cons_append]
      unfold takeSign
      split
      · next heq =>
          cases heq
          cases hc
      · next heq =>
          cases heq
          cases hc
      · rfl

theorem ne_point_of_mem_whole (p : Spelling) : ∀ c ∈ p.whole, (c != '.') = true := by
  intro c hc
  rw [bne_iff_ne]
  rintro rfl
  cases (areDigits_iff.mp p.whole_digits).2 '.' hc

theorem takeWhile_unsigned (p : Spelling) :
    p.unsigned.takeWhile (· != '.') = p.whole ∧
      p.unsigned.dropWhile (· != '.') = ofFraction p.fraction := by
  have hpoint := p.ne_point_of_mem_whole
  rw [unsigned, List.takeWhile_append_of_pos hpoint, List.dropWhile_append_of_pos hpoint]
  cases p.fraction with
  | none => exact ⟨List.append_nil _, rfl⟩
  | some digits => exact ⟨List.append_nil _, rfl⟩

theorem ofText?_text (p : Spelling) : ofText? p.text = some p.decimal := by
  obtain ⟨hwhole, hrest⟩ := p.takeWhile_unsigned
  rw [ofText?, text, String.toList_ofList]
  simp only [ofChars?, takeSign_ofSign, hwhole, hrest]
  cases hfraction : p.fraction with
  | none => simp [ofFraction, p.whole_digits, decimal, hfraction]
  | some digits =>
      have hdigits := p.fraction_digits digits hfraction
      simp [ofFraction, p.whole_digits, hdigits, decimal, hfraction]

end Spelling

/-- Digits alone are a numeral. -/
theorem ofText?_of_areDigits {s : String} (h : areDigits s.toList = true) :
    ofText? s = some ⟨false, valueOf s.toList, 0⟩ := by
  let spelling : Spelling := ⟨none, s.toList, none, h, fun _ hdigits => by cases hdigits⟩
  have htext : spelling.text = s := by
    simp [spelling, Spelling.text, Spelling.unsigned, Spelling.ofSign, Spelling.ofFraction]
  have hdecimal : spelling.decimal = ⟨false, valueOf s.toList, 0⟩ := by
    simp [spelling, Spelling.decimal]
  rw [← hdecimal, ← spelling.ofText?_text, htext]

theorem exists_ofSign (cs : List Char) :
    ∃ minus, cs = Spelling.ofSign minus ++ (takeSign cs).2 := by
  unfold takeSign
  split
  · exact ⟨some false, rfl⟩
  · exact ⟨some true, rfl⟩
  · exact ⟨none, rfl⟩

/-- Every text that is read is written in this way. -/
theorem exists_spelling {s : String} (h : isNumeral s = true) :
    ∃ p : Spelling, p.text = s := by
  obtain ⟨minus, hminus⟩ := exists_ofSign s.toList
  have hparts := List.takeWhile_append_dropWhile (p := (· != '.')) (l := (takeSign s.toList).2)
  have htext : ∀ p : Spelling, p.minus = minus → p.unsigned = (takeSign s.toList).2 →
      p.text = s := by
    rintro p rfl hunsigned
    rw [Spelling.text, hunsigned, ← hminus, String.ofList_toList]
  simp only [isNumeral, ofText?, ofChars?] at h
  cases hdrop : (takeSign s.toList).2.dropWhile (· != '.') with
  | nil =>
      simp only [hdrop, Option.isSome_ite] at h
      rw [hdrop] at hparts
      exact ⟨⟨minus, _, none, h, fun _ hdigits => by cases hdigits⟩, htext _ rfl hparts⟩
  | cons point fraction =>
      have hpoint : point = '.' := by
        have hhead := List.head?_dropWhile_not (· != '.') (takeSign s.toList).2
        rw [hdrop] at hhead
        simpa using hhead
      simp only [hdrop, Option.isSome_ite, Bool.and_eq_true] at h
      rw [hdrop, hpoint] at hparts
      refine ⟨⟨minus, _, some fraction, h.1, fun _ hdigits => ?_⟩, htext _ rfl hparts⟩
      cases hdigits
      exact h.2

/-- **The numerals are the texts that are written as one.** -/
theorem isNumeral_iff_exists_spelling {s : String} :
    isNumeral s = true ↔ ∃ p : Spelling, p.text = s := by
  constructor
  · exact exists_spelling
  · rintro ⟨p, rfl⟩
    rw [isNumeral, p.ofText?_text]
    rfl

end TextTables.Decimal
