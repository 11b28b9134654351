import TextTables.Comparison
import TextTables.Proofs.Number.Rounding

/-!
# The order of numerals

Two numerals are compared as the doubles nearest to their exact values.  Rounding keeps the
order of the values, though it can make two of them equal, so the signs of comparison agree
with one another as those of any linear order do and never turn the exact order around.
Texts that are not both numerals have no order at all.
-/

namespace TextTables.Comparison

open Decimal (Spelling isNumeral)

/-! ## Signs between numbers -/

/-- The signs of comparison are those of the integers. -/
theorem numeric_signs (left right : Int) :
    numeric "==" left right = (left == right) ∧
      numeric "!=" left right = (left != right) ∧
      numeric "<" left right = decide (left < right) ∧
      numeric ">" left right = decide (right < left) ∧
      numeric "<=" left right = decide (left ≤ right) ∧
      numeric ">=" left right = decide (right ≤ left) :=
  ⟨rfl, rfl, rfl, rfl, rfl, rfl⟩

theorem numeric_like {sign : String} (h : Text.sameWord sign "LIKE" = true) (left right : Int) :
    numeric sign left right = false := by
  have hne : ∀ other ∈ ["==", "!=", ">", "<", ">=", "<="], sign ≠ other := by
    have hunlike : ∀ other ∈ ["==", "!=", ">", "<", ">=", "<="],
        Text.sameWord other "LIKE" = false := by decide
    rintro other hother rfl
    rw [hunlike sign hother] at h
    cases h
  simp only [List.forall_mem_cons] at hne
  simp [numeric, hne]

/-- Of two numbers one is less than the other or they are equal, and the signs say so. -/
theorem numeric_coherent (left right : Int) :
    [numeric "<" left right, numeric "==" left right, numeric ">" left right].count true = 1 ∧
      numeric "<=" left right = !numeric ">" left right ∧
      numeric ">=" left right = !numeric "<" left right ∧
      numeric "<" left right = numeric ">" right left := by
  obtain ⟨hequal, _, hless, hgreater, hless_equal, hgreater_equal⟩ := numeric_signs left right
  rw [hequal, hless, hgreater, hless_equal, hgreater_equal, (numeric_signs right left).2.2.2.1]
  refine ⟨?_, ?_, ?_, rfl⟩
  · rcases lt_trichotomy left right with hlt | rfl | hgt
    · simp [hlt, hlt.ne, hlt.le]
    · simp
    · simp [hgt, hgt.ne', hgt.le]
  · rw [← decide_not, decide_eq_decide, not_lt]
  · rw [← decide_not, decide_eq_decide, not_lt]

/-! ## Signs between texts -/

theorem holds_unequal (value literal : String) :
    holds "!=" value literal = !holds "==" value literal := by
  unfold holds
  split
  · rfl
  · rfl

theorem holds_of_spellings (p q : Spelling) (sign : String) :
    holds sign p.text q.text =
      numeric sign (Double.ofDecimal p.decimal) (Double.ofDecimal q.decimal) := by
  rw [holds, p.ofText?_text, q.ofText?_text]

theorem isNearest_of_spelling (p : Spelling) :
    Double.IsNearest (p.value * Double.one) (Double.ofDecimal p.decimal) := by
  rw [← p.value_decimal]
  exact Double.isNearest_ofDecimal p.decimal

/-- Numerals are compared as any correct rounding of their exact values is. -/
theorem holds_of_isNearest {p q : Spelling} {left right : Int}
    (hleft : Double.IsNearest (p.value * Double.one) left)
    (hright : Double.IsNearest (q.value * Double.one) right) (sign : String) :
    holds sign p.text q.text = numeric sign left right := by
  rw [holds_of_spellings, hleft.eq (isNearest_of_spelling p),
    hright.eq (isNearest_of_spelling q)]

/-- Where one of the texts is no numeral nothing is less or greater. -/
theorem holds_of_not_isNumeral {value literal : String}
    (h : ¬(isNumeral value = true ∧ isNumeral literal = true)) (sign : String) :
    holds sign value literal = textual sign value literal := by
  unfold holds
  split
  · next left right hvalue hliteral => simp [isNumeral, hvalue, hliteral] at h
  · rfl

theorem textual_eq_false_of_mem {sign : String} (h : sign ∈ ["<", ">", "<=", ">="])
    (value literal : String) : textual sign value literal = false := by
  simp only [List.mem_cons, List.not_mem_nil, or_false] at h
  obtain rfl | rfl | rfl | rfl := h
  all_goals rfl

theorem holds_le_of_value_le {p q : Spelling} (h : p.value ≤ q.value) :
    holds "<=" p.text q.text = true := by
  rw [← p.value_decimal, ← q.value_decimal] at h
  rw [holds_of_spellings, (numeric_signs _ _).2.2.2.2.1, decide_eq_true_eq]
  exact Double.ofDecimal_le_ofDecimal h

theorem holds_less_trans {p q r : Spelling} (hfirst : holds "<" p.text q.text = true)
    (hsecond : holds "<" q.text r.text = true) : holds "<" p.text r.text = true := by
  rw [holds_of_spellings, (numeric_signs _ _).2.2.1, decide_eq_true_eq] at hfirst hsecond ⊢
  exact hfirst.trans hsecond

/-- **The signs of comparison agree with one another and with the exact values.**  The sign
`!=` denies `==`.  Of two numerals exactly one is less, or they are equal; `<=` denies `>` and
`>=` denies `<`; `<` is `>` with the texts exchanged and is transitive; no numeral is `LIKE`
another; what is at most as much exactly is so by `<=`; and every sign is that of the exact
values after any correct rounding to doubles.  Texts that are not both numerals are neither
less nor greater. -/
theorem holds_coherent (value literal : String) :
    holds "!=" value literal = !holds "==" value literal ∧
      (∀ text, isNumeral text = true ↔ ∃ p : Spelling, p.text = text) ∧
      (isNumeral value = true → isNumeral literal = true →
        [holds "<" value literal, holds "==" value literal,
          holds ">" value literal].count true = 1 ∧
        holds "<=" value literal = !holds ">" value literal ∧
        holds ">=" value literal = !holds "<" value literal ∧
        holds "<" value literal = holds ">" literal value ∧
        (∀ sign, Text.sameWord sign "LIKE" = true → holds sign value literal = false) ∧
        (∀ middle, isNumeral middle = true → holds "<" value middle = true →
          holds "<" middle literal = true → holds "<" value literal = true) ∧
        ∀ p q : Spelling, p.text = value → q.text = literal →
          (p.value ≤ q.value → holds "<=" value literal = true) ∧
          ∀ left right, Double.IsNearest (p.value * Double.one) left →
            Double.IsNearest (q.value * Double.one) right →
            ∀ sign, holds sign value literal = numeric sign left right) ∧
      (¬(isNumeral value = true ∧ isNumeral literal = true) →
        ∀ sign ∈ ["<", ">", "<=", ">="], holds sign value literal = false) := by
  refine ⟨holds_unequal value literal, fun _ => Decimal.isNumeral_iff_exists_spelling, ?_, ?_⟩
  · intro hvalue hliteral
    obtain ⟨p, rfl⟩ := Decimal.exists_spelling hvalue
    obtain ⟨q, rfl⟩ := Decimal.exists_spelling hliteral
    obtain ⟨hone, hless_equal, hgreater_equal, hless⟩ :=
      numeric_coherent (Double.ofDecimal p.decimal) (Double.ofDecimal q.decimal)
    simp only [holds_of_spellings p q, holds_of_spellings q p]
    refine ⟨hone, hless_equal, hgreater_equal, hless, fun sign hlike => ?_, ?_, ?_⟩
    · exact numeric_like hlike _ _
    · intro middle hmiddle hfirst hsecond
      obtain ⟨r, rfl⟩ := Decimal.exists_spelling hmiddle
      rw [← holds_of_spellings]
      exact holds_less_trans hfirst hsecond
    · intro p' q' hp hq
      simp only [← holds_of_spellings, ← hp, ← hq]
      exact ⟨holds_le_of_value_le, fun _ _ => holds_of_isNearest⟩
  · intro hnumerals sign hsign
    rw [holds_of_not_isNumeral hnumerals, textual_eq_false_of_mem hsign]

/-- Three numerals one after another, the first and the last of them also by their exact
values and by the nearest doubles, and a word beside a numeral. -/
theorem holds_coherent_of_signed :
    holds "<" "-1.5" "+0.10" = true ∧ holds ">=" "-1.5" "+0.10" = false ∧
      holds "<=" "-1.5" "+0.10" = true ∧ holds "!=" "-1.5" "+0.10" = true ∧
      holds "like" "-1.5" "+0.10" = false ∧ holds "<" "one" "2" = false := by
  let p : Spelling := ⟨some true, ['1'], some ['5'], by decide, by decide⟩
  let q : Spelling := ⟨some false, ['0'], some ['1', '0'], by decide, by decide⟩
  have hvalue : isNumeral "-1.5" = true := by decide +kernel
  have hliteral : isNumeral "+0.10" = true := by decide +kernel
  obtain ⟨_, _, hnumerals, _⟩ := holds_coherent "-1.5" "+0.10"
  obtain ⟨_, _, hgreater_equal, _, hlike, htrans, hexact⟩ := hnumerals hvalue hliteral
  obtain ⟨hle, hnearest⟩ := hexact p q (by decide) (by decide)
  have hunequal := hnearest _ _ (isNearest_of_spelling p) (isNearest_of_spelling q) "!="
  obtain ⟨_, _, _, htexts⟩ := holds_coherent "one" "2"
  have hless : holds "<" "-1.5" "+0.10" = true :=
    htrans "0" (by decide +kernel) (by decide +kernel) (by decide +kernel)
  refine ⟨hless, ?_, hle (by decide +kernel), hunequal.trans (by decide +kernel),
    hlike "like" (by decide), htexts (by decide +kernel) "<" (by decide)⟩
  rw [hgreater_equal, hless]
  rfl

end TextTables.Comparison
