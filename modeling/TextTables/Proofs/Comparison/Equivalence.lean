import TextTables.Proofs.Comparison.Order
import TextTables.Proofs.Condition.Equality

/-!
# Equality of texts that can be numerals

Two numerals are equal if they are converted to the same number, and any other two texts are
equal if their lower case is.  The characters of numerals stand before the letter `A`, where
lower case changes nothing and where it leads from nowhere else.  So a text with the lower
case of a numeral is this numeral, no numeral is equal to a text of another form, and the two
rules together make one equivalence, whatever numbers the numerals are converted to.
-/

namespace TextTables

namespace Text

/-! ## Characters before the letters -/

/-- The small letters beyond `a` to `z` are characters. -/
theorem isValidChar_of_mem_capitalRuns :
    ∀ run ∈ capitalRuns, (run.last : Int) + run.shift < 0xD800 ∨
      (0xDFFF : Int) < run.first + run.shift ∧ (run.last : Int) + run.shift < 0x110000 := by
  decide +kernel

theorem toNat_small_of_holds {run : CapitalRun} (hrun : run ∈ capitalRuns) {c : Char}
    (h : run.holds c.toNat = true) :
    90 < (Char.ofNat (Int.ofNat c.toNat + run.shift).toNat).toNat := by
  simp only [CapitalRun.holds, Bool.and_eq_true, Nat.ble_eq] at h
  have hsmall := small_of_mem_capitalRuns run hrun
  have hvalid := isValidChar_of_mem_capitalRuns run hrun
  rw [Int.ofNat_eq_natCast, Char.toNat_ofNat, if_pos]
  · omega
  · rw [Nat.isValidChar]
    omega

/-- A character before `A` is the lower case of itself only. -/
theorem lowerChar_eq_singleton_of_mem {c d : Char} (h : d ∈ lowerChar c) (hd : d.toNat < 65) :
    lowerChar c = [c] := by
  unfold lowerChar at h ⊢
  split at h
  · next hascii =>
      rw [if_pos hascii]
      rw [List.mem_singleton.mp h] at hd
      by_cases hupper : c.isUpper = true
      · have hbounds : 65 ≤ c.toNat ∧ c.toNat ≤ 90 := by
          rw [Char.isUpper, decide_eq_true_eq] at hupper
          exact hupper
        have hvalid : (c.toNat + 32).isValidChar := by
          rw [Nat.isValidChar]
          omega
        rw [Char.toLower_eq_of_isUpper hupper, Char.toNat_ofNat, if_pos hvalid] at hd
        omega
      · rw [Char.toLower_eq_of_not_isUpper hupper]
  · next hascii =>
      rw [if_neg hascii]
      split at h
      · rcases List.mem_cons.mp h with rfl | h
        · exact absurd hd (by decide)
        · rw [List.mem_singleton.mp h] at hd
          exact absurd hd (by decide)
      · next hdotted =>
          rw [if_neg hdotted]
          split at h
          · next run hrun =>
              have hholds := List.find?_some hrun
              have hcode := toNat_small_of_holds (List.mem_of_find?_eq_some hrun) hholds
              rw [List.mem_singleton.mp h] at hd
              omega
          · rfl

theorem lowerChar_of_lt {c : Char} (h : c.toNat < 65) : lowerChar c = [c] := by
  have hupper : ¬c.isUpper = true := by
    intro hupper
    rw [Char.isUpper, decide_eq_true_eq] at hupper
    have hfirst : 65 ≤ c.toNat := hupper.1
    omega
  rw [lowerChar, if_pos (Nat.blt_eq.mpr (by omega)), Char.toLower_eq_of_not_isUpper hupper]

theorem lowerAfter_of_forall_lt {cs : List Char} (h : ∀ c ∈ cs, c.toNat < 65)
    (before : List Char) : lowerAfter before cs = cs := by
  induction cs generalizing before with
  | nil => rfl
  | cons c rest ih =>
      obtain ⟨hc, hrest⟩ := List.forall_mem_cons.mp h
      have hsigma : ¬(c == 'Σ') = true := by
        rw [beq_iff_eq]
        rintro rfl
        exact absurd hc (by decide)
      rw [lowerAfter, if_neg hsigma, lowerChar_of_lt hc, ih hrest]
      rfl

/-- A text whose lower case has only characters before `A` is in lower case. -/
theorem eq_lowerAfter_of_forall_lt {before cs : List Char}
    (h : ∀ d ∈ lowerAfter before cs, d.toNat < 65) : lowerAfter before cs = cs := by
  induction cs generalizing before with
  | nil => rfl
  | cons c rest ih =>
      rw [lowerAfter] at h ⊢
      split at h
      · obtain ⟨hsigma, _⟩ := List.forall_mem_cons.mp h
        unfold lowerSigma at hsigma
        split at hsigma
        · exact absurd hsigma (by decide)
        · exact absurd hsigma (by decide)
      · next hsigma =>
          obtain ⟨hsmall, hrest⟩ := List.forall_mem_append.mp h
          obtain ⟨d, more, hd⟩ := List.exists_cons_of_ne_nil (lowerChar_ne_nil c)
          have hmem : d ∈ lowerChar c := by
            rw [hd]
            exact List.mem_cons_self
          rw [if_neg hsigma, lowerChar_eq_singleton_of_mem hmem (hsmall d hmem), ih hrest]
          rfl

theorem lower_eq_lower_iff_of_forall_lt {s t : String} (hs : ∀ c ∈ s.toList, c.toNat < 65) :
    lower s = lower t ↔ s = t := by
  constructor
  · intro h
    rw [← String.toList_inj, toList_lower, toList_lower, lowerAfter_of_forall_lt hs] at h
    rw [h] at hs
    rw [eq_lowerAfter_of_forall_lt hs] at h
    exact String.toList_inj.mp h
  · rintro rfl
    rfl

end Text

namespace Decimal

theorem toNat_lt_of_mem_isNumeral {s : String} (hs : isNumeral s = true) {c : Char}
    (hc : c ∈ s.toList) : c.toNat < 65 := by
  by_contra hcode
  have hdigit : c.isDigit = false := by
    rw [Bool.eq_false_iff]
    intro hdigit
    obtain ⟨_, hlast⟩ := Text.toNat_bounds_of_isDigit hdigit
    omega
  have hne : ∀ d : Char, d.toNat < 65 → c ≠ d := by
    rintro d hd rfl
    exact hcode hd
  have hnone : ofText? s = none := ofChars?_eq_none hc hdigit
    ⟨hne '+' (by decide), hne '-' (by decide)⟩ (hne '.' (by decide))
  rw [isNumeral, hnone] at hs
  cases hs

/-- A text with the lower case of a numeral is this numeral. -/
theorem lower_eq_lower_iff {s t : String} (hs : isNumeral s = true) :
    Text.lower s = Text.lower t ↔ s = t :=
  Text.lower_eq_lower_iff_of_forall_lt fun _ hc => toNat_lt_of_mem_isNumeral hs hc

end Decimal

namespace Comparison

open Text (lower trim)

/-! ## One equivalence of two rules -/

/-- The equality of trimmed texts with numerals converted by `convert`. -/
def equalUnder {α : Type} [BEq α] (convert : String → α) (left right : String) : Bool :=
  if Decimal.isNumeral (trim left) && Decimal.isNumeral (trim right) then
    convert (trim left) == convert (trim right)
  else lower (trim left) == lower (trim right)

section

variable {α : Type} [BEq α] {convert : String → α} {left right : String}

theorem equalUnder_of_isNumeral (hleft : Decimal.isNumeral (trim left) = true)
    (hright : Decimal.isNumeral (trim right) = true) :
    equalUnder convert left right = (convert (trim left) == convert (trim right)) := by
  rw [equalUnder, hleft, hright]
  rfl

/-- No numeral is equal to a text of another form. -/
theorem isNumeral_eq_of_equalUnder (h : equalUnder convert left right = true) :
    Decimal.isNumeral (trim left) = Decimal.isNumeral (trim right) := by
  unfold equalUnder at h
  by_cases hleft : Decimal.isNumeral (trim left) = true
  · by_cases hright : Decimal.isNumeral (trim right) = true
    · rw [hleft, hright]
    · rw [if_neg (by simp [hright]), beq_iff_eq, Decimal.lower_eq_lower_iff hleft] at h
      rw [h]
  · rw [if_neg (by simp [hleft]), beq_iff_eq] at h
    by_cases hright : Decimal.isNumeral (trim right) = true
    · rw [(Decimal.lower_eq_lower_iff hright).mp h.symm]
    · rw [Bool.eq_false_iff.mpr hleft, Bool.eq_false_iff.mpr hright]

theorem equalUnder_of_not_isNumeral (hleft : Decimal.isNumeral (trim left) = false) :
    equalUnder convert left right = (lower (trim left) == lower (trim right)) := by
  rw [equalUnder, hleft]
  rfl

theorem equivalence_equalUnder [EquivBEq α] (convert : String → α) :
    Equivalence fun left right => equalUnder convert left right = true := by
  constructor
  · intro text
    unfold equalUnder
    split
    · exact BEq.rfl
    · exact beq_self_eq_true _
  · intro left right h
    have hforms := isNumeral_eq_of_equalUnder h
    cases hleft : Decimal.isNumeral (trim left) with
    | true =>
        rw [equalUnder_of_isNumeral hleft (hforms ▸ hleft)] at h
        rw [equalUnder_of_isNumeral (hforms ▸ hleft) hleft]
        exact BEq.symm h
    | false =>
        rw [equalUnder_of_not_isNumeral hleft] at h
        rw [equalUnder_of_not_isNumeral (hforms ▸ hleft)]
        exact BEq.symm h
  · intro left middle right hfirst hsecond
    have hforms := isNumeral_eq_of_equalUnder hfirst
    have hothers := isNumeral_eq_of_equalUnder hsecond
    cases hleft : Decimal.isNumeral (trim left) with
    | true =>
        have hmiddle : Decimal.isNumeral (trim middle) = true := hforms ▸ hleft
        have hright : Decimal.isNumeral (trim right) = true := hothers ▸ hmiddle
        rw [equalUnder_of_isNumeral hleft hmiddle] at hfirst
        rw [equalUnder_of_isNumeral hmiddle hright] at hsecond
        rw [equalUnder_of_isNumeral hleft hright]
        exact BEq.trans hfirst hsecond
    | false =>
        have hmiddle : Decimal.isNumeral (trim middle) = false := hforms ▸ hleft
        rw [equalUnder_of_not_isNumeral hleft] at hfirst
        rw [equalUnder_of_not_isNumeral hmiddle] at hsecond
        rw [equalUnder_of_not_isNumeral hleft]
        exact BEq.trans hfirst hsecond

end

/-- The double nearest to a numeral, and nothing for other texts. -/
def nearest? (text : String) : Option Int :=
  (Decimal.ofText? text).map Double.ofDecimal

theorem equal_eq_equalUnder_nearest (left right : String) :
    equal left right = equalUnder nearest? left right := by
  unfold equal holds equalUnder nearest? Decimal.isNumeral
  cases Decimal.ofText? (trim left) with
  | none => rfl
  | some first =>
      cases Decimal.ofText? (trim right) with
      | none => rfl
      | some second => exact (numeric_signs _ _).1

/-- **The equality on which rows are joined is an equivalence**, and would be one with any
conversion of numerals to numbers whose equality is an equivalence. -/
theorem equivalence_equal :
    (Equivalence fun left right => equal left right = true) ∧
      (∀ left right, equal left right = equalUnder nearest? left right) ∧
      ∀ (α : Type) [BEq α] [EquivBEq α] (convert : String → α),
        Equivalence fun left right => equalUnder convert left right = true := by
  refine ⟨?_, equal_eq_equalUnder_nearest, fun α => equivalence_equalUnder⟩
  simp only [equal_eq_equalUnder_nearest]
  exact equivalence_equalUnder nearest?

/-- Three spellings of a number and three of a word, and numerals that another conversion,
the number of their characters, takes for equal. -/
theorem equivalence_equal_of_spellings :
    equal " 1.0" "1" = true ∧ equal "1" "+1.00" = true ∧ equal " 1.0" "+1.00" = true ∧
      equal "ΟΔΟΣ" "Οδος " = true ∧ equal "Οδος " "οδος" = true ∧ equal "ΟΔΟΣ" "οδος" = true ∧
      equalUnder String.length "10" "-1" = true ∧ equalUnder String.length "-1" " +2" = true ∧
      equalUnder String.length "10" " +2" = true := by
  obtain ⟨hequal, _, hunder⟩ := equivalence_equal
  have hone : equal " 1.0" "1" = true := by decide +kernel
  have hplus : equal "1" "+1.00" = true := by decide +kernel
  have hcapitals : equal "ΟΔΟΣ" "Οδος " = true := by decide +kernel
  have hsmall : equal "Οδος " "οδος" = true := by decide +kernel
  have hten : equalUnder String.length "10" "-1" = true := by decide +kernel
  have htwo : equalUnder String.length "-1" " +2" = true := by decide +kernel
  exact ⟨hone, hplus, hequal.trans hone hplus, hcapitals, hsmall,
    hequal.trans hcapitals hsmall, hten, htwo, (hunder ℕ String.length).trans hten htwo⟩

end Comparison

end TextTables
