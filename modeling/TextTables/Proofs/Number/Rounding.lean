import TextTables.Number.Double
import TextTables.Proofs.Number.Numerals

/-!
# Correct rounding

The double of a decimal is the double nearest to its exact value, and of two that are
equally near the even one.  This alone decides which double it is, makes rounding monotone
and leaves every number alone that is a double itself.

All doubles are counted in units of the smallest positive one, so they are whole numbers:
those with at most 53 binary digits before the zeros at their end.  Between a power of two
and the next they are the multiples of one step, and every smaller double is farther away
than the power is.
-/

namespace TextTables.Double

/-! ## Which double is nearest -/

/-- At most 53 binary digits, apart from zeros at the end. -/
def HasPrecision (n : ℕ) : Prop :=
  ∃ significand exponent, significand < 2 ^ precision ∧ n = significand * 2 ^ exponent

/-- A double in units of the smallest positive one, infinity included. -/
structure IsDouble (x : ℤ) : Prop where
  hasPrecision : HasPrecision x.natAbs
  le_infinity : x.natAbs ≤ infinity

/-- For the number `q`, `r` is to be taken before `x`: it is nearer, or it is as near and
even, as counted in their distance. -/
structure Precedes (q : ℚ) (r x : ℤ) : Prop where
  near : |q - r| ≤ |q - x|
  even : x ≠ r → |q - x| = |q - r| → 2 * (x - r) ∣ r

/-- The double nearest to `q` is `r`. -/
structure IsNearest (q : ℚ) (r : ℤ) : Prop where
  isDouble : IsDouble r
  precedes : ∀ x, IsDouble x → Precedes q r x

namespace Precedes

variable {q : ℚ} {r x : ℤ}

theorem refl (q : ℚ) (r : ℤ) : Precedes q r r :=
  ⟨le_refl _, fun hne => absurd rfl hne⟩

theorem of_lt (h : |q - r| < |q - x|) : Precedes q r x :=
  ⟨h.le, fun _ heq => absurd heq h.ne'⟩

/-- What lies beyond a double that is not nearer is not nearer either. -/
theorem of_near_of_lt {y : ℤ} (hnear : |q - r| ≤ |q - y|) (hy : (y : ℚ) ≤ q) (hx : x < y) :
    Precedes q r x := by
  have hcast : (x : ℚ) < y := Int.cast_lt.mpr hx
  apply of_lt
  refine lt_of_le_of_lt hnear ?_
  rw [abs_of_nonneg (by linarith), abs_of_nonneg (by linarith)]
  linarith

theorem neg (h : Precedes q r x) : Precedes (-q) (-r) (-x) := by
  have habs : ∀ y : ℤ, |-q - ((-y : ℤ) : ℚ)| = |q - y| := by
    intro y
    rw [Int.cast_neg, ← neg_sub', abs_neg]
  constructor
  · rw [habs, habs]
    exact h.near
  · intro hne heq
    rw [habs, habs] at heq
    have hdvd := h.even (fun hx => hne (congrArg Neg.neg hx)) heq
    rwa [dvd_neg, ← neg_sub', mul_neg, neg_dvd]

theorem scale {step : ℕ} (hstep : 0 < step) (h : Precedes q r x) :
    Precedes (q * step) (r * step) (x * step) := by
  have hpos : (0 : ℚ) < step := Nat.cast_pos.mpr hstep
  have habs : ∀ y : ℤ, |q * step - ((y * step : ℤ) : ℚ)| = |q - y| * step := by
    intro y
    rw [Int.cast_mul, Int.cast_natCast, ← sub_mul, abs_mul, abs_of_pos hpos]
  constructor
  · rw [habs, habs]
    exact mul_le_mul_of_nonneg_right h.near hpos.le
  · intro hne heq
    rw [habs, habs] at heq
    have hdvd := h.even (fun hx => hne (by rw [hx])) (mul_right_cancel₀ hpos.ne' heq)
    rw [← sub_mul, ← mul_assoc]
    exact mul_dvd_mul_right hdvd _

end Precedes

theorem abs_sub_le_abs_sub_iff {q r s : ℚ} (h : s < r) : |q - r| ≤ |q - s| ↔ r + s ≤ 2 * q := by
  rcases abs_cases (q - r) with ⟨hr, _⟩ | ⟨hr, _⟩
  all_goals rcases abs_cases (q - s) with ⟨hs, _⟩ | ⟨hs, _⟩
  all_goals rw [hr, hs]; constructor <;> intro <;> linarith

/-- Of two numbers the larger one has no smaller double. -/
theorem IsNearest.mono {p q : ℚ} {r s : ℤ} (hr : IsNearest p r) (hs : IsNearest q s)
    (hpq : p ≤ q) : r ≤ s := by
  by_contra hlt
  push Not at hlt
  have hcast : (s : ℚ) < r := Int.cast_lt.mpr hlt
  have hfirst := hr.precedes s hs.isDouble
  have hsecond := hs.precedes r hr.isDouble
  -- Both numbers lie on the same side of the middle between the doubles, so in the middle.
  have hlow : (r : ℚ) + s ≤ 2 * p := (abs_sub_le_abs_sub_iff hcast).mp hfirst.near
  have hmiddle : |q - r| ≤ |q - s| := (abs_sub_le_abs_sub_iff hcast).mpr (by linarith)
  have hhigh : 2 * q ≤ r + s := by
    have htie : |q - s| = |q - r| := le_antisymm hsecond.near hmiddle
    rcases abs_eq_abs.mp htie with hsame | hsame
    · linarith
    · linarith
  obtain rfl : p = q := by linarith
  -- Then both doubles would have to be even.
  have htie : |p - r| = |p - s| := le_antisymm hfirst.near hsecond.near
  have hr_even := hfirst.even hlt.ne htie.symm
  have hs_even := hsecond.even hlt.ne' htie
  rw [← neg_sub, mul_neg, neg_dvd] at hr_even
  obtain ⟨k, hk⟩ := dvd_sub hr_even hs_even
  have hone : (r - s) * (2 * k - 1) = 0 := by linarith
  rcases mul_eq_zero.mp hone with hzero | hzero
  · omega
  · omega

/-- There is only one nearest double. -/
theorem IsNearest.eq {q : ℚ} {r s : ℤ} (hr : IsNearest q r) (hs : IsNearest q s) : r = s :=
  le_antisymm (hr.mono hs (le_refl q)) (hs.mono hr (le_refl q))

/-- A double is the nearest to itself. -/
theorem IsDouble.isNearest {x : ℤ} (hx : IsDouble x) : IsNearest x x := by
  refine ⟨hx, fun y hy => ?_⟩
  by_cases hne : y = x
  · rw [hne]
    exact .refl _ _
  · apply Precedes.of_lt
    rw [sub_self, abs_zero, abs_pos, sub_ne_zero]
    exact fun heq => hne (Int.cast_injective heq.symm)

theorem IsNearest.neg {q : ℚ} {r : ℤ} (h : IsNearest q r) : IsNearest (-q) (-r) := by
  have hdouble : ∀ {x : ℤ}, IsDouble x → IsDouble (-x) := by
    intro x hx
    constructor
    · rw [Int.natAbs_neg]
      exact hx.hasPrecision
    · rw [Int.natAbs_neg]
      exact hx.le_infinity
  refine ⟨hdouble h.isDouble, fun x hx => ?_⟩
  rw [← neg_neg x]
  exact (h.precedes (-x) (hdouble hx)).neg

/-! ## Rounding to a whole number -/

theorem roundQuotient_le (num den : ℕ) : roundQuotient num den ≤ num / den + 1 := by
  unfold roundQuotient
  simp only
  split
  · omega
  · split
    · omega
    · omega

theorem roundQuotient_spec (num : ℕ) {den : ℕ} (hden : 0 < den) :
    2 * |(num : ℤ) - roundQuotient num den * den| ≤ den ∧
      (2 * |(num : ℤ) - roundQuotient num den * den| = den → 2 ∣ roundQuotient num den) := by
  have hrest : num % den < den := Nat.mod_lt num hden
  have hsum : (num : ℤ) = (num / den : ℕ) * den + (num % den : ℕ) := by
    exact_mod_cast (Nat.div_add_mod' num den).symm
  have hdown : (num : ℤ) - (num / den : ℕ) * den = (num % den : ℕ) := by linarith
  have hup : (num : ℤ) - (num / den + 1 : ℕ) * den = (num % den : ℕ) - (den : ℤ) := by
    push_cast at hsum ⊢
    linarith
  unfold roundQuotient
  simp only
  split
  · next hlow =>
      rw [hdown, abs_of_nonneg (Int.natCast_nonneg _)]
      exact ⟨by omega, fun htie => by omega⟩
  · split
    · next hhigh =>
        rw [hup, abs_of_nonpos (by omega)]
        exact ⟨by omega, fun htie => by omega⟩
    · rcases Nat.mod_two_eq_zero_or_one (num / den) with heven | hodd
      · rw [heven, Nat.add_zero, hdown, abs_of_nonneg (Int.natCast_nonneg _)]
        exact ⟨by omega, fun _ => Nat.dvd_of_mod_eq_zero heven⟩
      · rw [hodd, hup, abs_of_nonpos (by omega)]
        exact ⟨by omega, fun _ => by omega⟩

theorem abs_sub_roundQuotient_le (num : ℕ) {den : ℕ} (hden : 0 < den) :
    |(num / den : ℚ) - roundQuotient num den| ≤ 1 / 2 ∧
      (|(num / den : ℚ) - roundQuotient num den| = 1 / 2 → 2 ∣ roundQuotient num den) := by
  obtain ⟨hle, heven⟩ := roundQuotient_spec num hden
  have hpos : (0 : ℚ) < den := Nat.cast_pos.mpr hden
  have hscaled : ((|(num : ℤ) - roundQuotient num den * den| : ℤ) : ℚ) =
      |(num / den : ℚ) - roundQuotient num den| * den := by
    rw [Int.cast_abs, ← abs_of_pos hpos, ← abs_mul, abs_of_pos hpos, sub_mul,
      div_mul_cancel₀ _ hpos.ne']
    push_cast
    rfl
  constructor
  · have hcast : (2 : ℚ) * (|(num / den : ℚ) - roundQuotient num den| * den) ≤ den := by
      rw [← hscaled]
      exact_mod_cast hle
    nlinarith
  · intro htie
    apply heven
    have hcast : (2 : ℚ) * ((|(num : ℤ) - roundQuotient num den * den| : ℤ) : ℚ) = den := by
      rw [hscaled, htie]
      ring
    exact_mod_cast hcast

/-- The rounded quotient is taken before every other whole number. -/
theorem precedes_roundQuotient (num : ℕ) {den : ℕ} (hden : 0 < den) (n : ℤ) :
    Precedes (num / den) (roundQuotient num den) n := by
  obtain ⟨hle, heven⟩ := abs_sub_roundQuotient_le num hden
  generalize (num / den : ℚ) = q at hle heven ⊢
  generalize roundQuotient num den = m at hle heven ⊢
  by_cases hne : n = m
  · rw [hne]
    exact .refl _ _
  · have hone : (1 : ℚ) ≤ |(n : ℚ) - m| := by
      have hint : 1 ≤ |n - m| := Int.one_le_abs (sub_ne_zero.mpr hne)
      exact_mod_cast hint
    have hsum : |(n : ℚ) - m| ≤ |q - n| + |q - m| := by
      rw [abs_sub_comm q n]
      exact abs_sub_le _ _ _
    constructor
    · rw [Int.cast_natCast]
      linarith
    · intro _ htie
      rw [Int.cast_natCast] at htie
      have hhalf : |q - m| = 1 / 2 := by linarith
      have hunit : |n - m| = 1 := by
        have hcast : |(n : ℚ) - m| = 1 := by linarith
        exact_mod_cast hcast
      have hdvd : (2 : ℤ) ∣ m := by exact_mod_cast heven hhalf
      rwa [← abs_dvd, abs_mul, hunit, mul_one, abs_two]

/-! ## Rounding to a double -/

/-- The number one, in units of the smallest positive double. -/
def one : ℕ :=
  Nat.pow 2 1074

/-- The distance of the doubles around a quotient. -/
def step (num den : ℕ) : ℕ :=
  2 ^ (Nat.log2 (num / den) + 1 - precision)

/-- The double nearest to a quotient, were there no largest one. -/
def unbounded (num den : ℕ) : ℕ :=
  roundQuotient num (den * step num den) * step num den

theorem magnitude_eq (digits places : ℕ) :
    magnitude digits places = min (unbounded (digits * one) (10 ^ places)) infinity := by
  unfold magnitude unbounded step one
  rfl

theorem step_pos (num den : ℕ) : 0 < step num den :=
  Nat.two_pow_pos _

/-- A quotient has no more than 53 digits before the place of its step, and no fewer unless
the step is one. -/
theorem step_spec (num den : ℕ) :
    num / den < 2 ^ precision * step num den ∧
      (step num den = 1 ∨ 2 ^ (precision - 1) * step num den ≤ num / den) := by
  unfold step
  have hprecision : precision = 53 := rfl
  constructor
  · rw [← pow_add]
    refine lt_of_lt_of_le Nat.lt_log2_self (Nat.pow_le_pow_right (by decide) ?_)
    omega
  · by_cases hsmall : Nat.log2 (num / den) + 1 ≤ precision
    · rw [Nat.sub_eq_zero_of_le hsmall]
      exact Or.inl rfl
    · have hlog : precision - 1 + (Nat.log2 (num / den) + 1 - precision) =
          Nat.log2 (num / den) := by omega
      right
      rw [← pow_add, hlog]
      apply Nat.log2_self_le
      intro hzero
      rw [hzero] at hsmall
      exact hsmall (by decide)

/-- A double is a multiple of the step or below the power of two that the step belongs to. -/
theorem HasPrecision.dvd_or_lt {n : ℕ} (h : HasPrecision n) (k : ℕ) :
    2 ^ k ∣ n ∨ n < 2 ^ (precision - 1) * 2 ^ k := by
  obtain ⟨significand, exponent, hlt, rfl⟩ := h
  rcases Nat.lt_or_ge exponent k with hk | hk
  · right
    calc significand * 2 ^ exponent
        < 2 ^ precision * 2 ^ exponent := Nat.mul_lt_mul_of_pos_right hlt (Nat.two_pow_pos _)
      _ ≤ 2 ^ (precision - 1) * 2 ^ k := by
          rw [← pow_add, ← pow_add]
          have hprecision : precision = 53 := rfl
          exact Nat.pow_le_pow_right (by decide) (by omega)
  · exact Or.inl (Dvd.dvd.mul_left (pow_dvd_pow 2 hk) _)

theorem hasPrecision_zero : HasPrecision 0 :=
  ⟨0, 0, Nat.two_pow_pos _, rfl⟩

theorem hasPrecision_two_pow (k : ℕ) : HasPrecision (2 ^ k) :=
  ⟨1, k, Nat.one_lt_two_pow (by decide), (one_mul _).symm⟩

/-- One binary digit more makes no difference if all digits are zeros behind the first. -/
theorem hasPrecision_mul_two_pow {n : ℕ} (h : n ≤ 2 ^ precision) (k : ℕ) :
    HasPrecision (n * 2 ^ k) := by
  rcases h.lt_or_eq with hlt | rfl
  · exact ⟨n, k, hlt, rfl⟩
  · rw [← pow_add]
    exact hasPrecision_two_pow _

theorem hasPrecision_infinity : HasPrecision infinity := by
  have hpow : ∀ k, HasPrecision (Nat.pow 2 k) := hasPrecision_two_pow
  unfold infinity
  apply hpow

theorem hasPrecision_unbounded (num den : ℕ) : HasPrecision (unbounded num den) := by
  have hquotient : num / (den * step num den) < 2 ^ precision := by
    rw [← Nat.div_div_eq_div_mul, Nat.div_lt_iff_lt_mul (step_pos num den)]
    exact (step_spec num den).1
  have hle := roundQuotient_le num (den * step num den)
  exact hasPrecision_mul_two_pow (by omega) _

section

variable {den : ℕ}

theorem precedes_unbounded_of_dvd (num : ℕ) (hden : 0 < den) {n : ℕ} (hn : step num den ∣ n) :
    Precedes (num / den) (unbounded num den) n := by
  obtain ⟨multiple, rfl⟩ := hn
  have hpos := step_pos num den
  have hscaled := (precedes_roundQuotient num (Nat.mul_pos hden hpos)
    multiple).scale hpos
  have hquotient : (num / (den * step num den : ℕ) : ℚ) * step num den = num / den := by
    have hne : (step num den : ℚ) ≠ 0 := Nat.cast_ne_zero.mpr hpos.ne'
    rw [Nat.cast_mul, ← div_div, div_mul_cancel₀ _ hne]
  rw [hquotient] at hscaled
  rwa [unbounded, mul_comm (step num den) multiple, Nat.cast_mul, Nat.cast_mul]

/-- Without a largest double the rounded quotient is taken before all others. -/
theorem precedes_unbounded (num : ℕ) (hden : 0 < den) {n : ℕ} (hn : HasPrecision n) :
    Precedes (num / den) (unbounded num den) n := by
  by_cases hdvd : step num den ∣ n
  · exact precedes_unbounded_of_dvd num hden hdvd
  · have hlt : n < 2 ^ (precision - 1) * step num den :=
      (hn.dvd_or_lt _).resolve_left hdvd
    have hpower : 2 ^ (precision - 1) * step num den ≤ num / den := by
      refine (step_spec num den).2.resolve_left fun hone => ?_
      rw [hone] at hdvd
      exact hdvd (one_dvd n)
    -- The power of two is a multiple of the step, and lies between the two numbers.
    have hnear := (precedes_unbounded_of_dvd num hden
      (Dvd.intro_left (2 ^ (precision - 1)) rfl)).near
    have hpower_le : ((2 ^ (precision - 1) * step num den : ℕ) : ℚ) ≤ num / den :=
      le_trans (Nat.cast_le.mpr hpower) Nat.cast_div_le
    exact .of_near_of_lt hnear hpower_le (Int.ofNat_lt.mpr hlt)

/-- If no double is beyond a bound, then the bound is nearest to what is. -/
theorem precedes_min (num : ℕ) (hden : 0 < den) {bound : ℕ} (hbound : HasPrecision bound) {n : ℕ}
    (hn : HasPrecision n) (hle : n ≤ bound) :
    Precedes (num / den) (min (unbounded num den) bound : ℕ) n := by
  rcases le_or_gt (unbounded num den) bound with hwithin | hover
  · rw [min_eq_left hwithin]
    exact precedes_unbounded num hden hn
  · rw [min_eq_right hover.le]
    rcases hle.eq_or_lt with rfl | hlt
    · exact .refl _ _
    · have hnear := (precedes_unbounded num hden hbound).near
      have hover_cast : (bound : ℚ) < unbounded num den := Nat.cast_lt.mpr hover
      have hbeyond := (abs_sub_le_abs_sub_iff hover_cast).mp hnear
      have hbound_le : ((bound : ℤ) : ℚ) ≤ num / den := by
        rw [Int.cast_natCast]
        linarith
      exact .of_near_of_lt (le_refl _) hbound_le (Int.ofNat_lt.mpr hlt)

theorem isNearest_min_infinity (num : ℕ) (hden : 0 < den) :
    IsNearest (num / den) (min (unbounded num den) infinity : ℕ) := by
  refine ⟨⟨?_, min_le_right _ _⟩, fun x hx => ?_⟩
  · rw [Int.natAbs_natCast]
    rcases min_choice (unbounded num den) infinity with hmin | hmin
    · rw [hmin]
      exact hasPrecision_unbounded num den
    · rw [hmin]
      exact hasPrecision_infinity
  · rcases Int.natAbs_eq x with hsign | hsign
    · rw [hsign]
      exact precedes_min num hden hasPrecision_infinity hx.hasPrecision hx.le_infinity
    · -- Zero is nearer than any negative number.
      have hzero := precedes_min num hden hasPrecision_infinity hasPrecision_zero
        (Nat.zero_le _)
      by_cases hx_zero : x = 0
      · rw [hx_zero]
        exact hzero
      · have hneg : x < (0 : ℕ) := by omega
        refine .of_near_of_lt hzero.near ?_ hneg
        rw [Nat.cast_zero, Int.cast_zero]
        positivity

end

/-- **Decimals are rounded correctly**, whatever number of digits they have. -/
theorem isNearest_ofDecimal (d : Decimal) : IsNearest (d.value * one) (ofDecimal d) := by
  have hden : 0 < 10 ^ d.places := Nat.pow_pos (by decide)
  have hmagnitude := isNearest_min_infinity (d.digits * one) hden
  rw [← magnitude_eq] at hmagnitude
  have hvalue : ((d.digits * one : ℕ) : ℚ) / (10 ^ d.places : ℕ) =
      d.digits / 10 ^ d.places * one := by
    push_cast
    ring
  rw [hvalue] at hmagnitude
  rw [Decimal.value, ofDecimal, Int.ofNat_eq_natCast]
  cases d.negative with
  | false =>
      rw [if_neg Bool.false_ne_true, if_neg Bool.false_ne_true, one_mul]
      exact hmagnitude
  | true =>
      rw [if_pos rfl, if_pos rfl, neg_one_mul, neg_mul]
      exact hmagnitude.neg

/-- The order of exact values is kept. -/
theorem ofDecimal_le_ofDecimal {d e : Decimal} (h : d.value ≤ e.value) :
    ofDecimal d ≤ ofDecimal e := by
  refine (isNearest_ofDecimal d).mono (isNearest_ofDecimal e) ?_
  exact mul_le_mul_of_nonneg_right h (Nat.cast_nonneg one)

/-! ## Whole numbers -/

/-- The double of a whole number. -/
def ofNat (n : ℕ) : ℤ :=
  ofDecimal ⟨false, n, 0⟩

theorem value_whole (n : ℕ) : Decimal.value ⟨false, n, 0⟩ = n := by
  simp [Decimal.value]

theorem ofNat_mono {m n : ℕ} (h : m ≤ n) : ofNat m ≤ ofNat n := by
  apply ofDecimal_le_ofDecimal
  rw [value_whole, value_whole]
  exact Nat.cast_le.mpr h

/-- Whole numbers with at most 53 binary digits are doubles. -/
theorem ofNat_of_le {n : ℕ} (h : n ≤ 2 ^ precision) : ofNat n = n * one := by
  have hpow : ∀ k, HasPrecision (n * Nat.pow 2 k) := hasPrecision_mul_two_pow h
  have hlargest : 2 ^ precision * one ≤ infinity := by decide +kernel
  have hdouble : IsDouble (n * one : ℕ) := by
    constructor
    · rw [Int.natAbs_natCast]
      unfold one
      apply hpow
    · rw [Int.natAbs_natCast]
      exact (Nat.mul_le_mul_right one h).trans hlargest
  have hnearest := isNearest_ofDecimal ⟨false, n, 0⟩
  rw [value_whole] at hnearest
  have hself := hdouble.isNearest
  rw [Int.cast_natCast, Nat.cast_mul] at hself
  rw [ofNat, hnearest.eq hself, Nat.cast_mul]

/-- Below the first whole number that is no double all numbers are told apart. -/
theorem ofNat_lt_ofNat {m n : ℕ} (hm : m < 2 ^ precision) (h : m < n) : ofNat m < ofNat n := by
  have hpos : 0 < one := by decide +kernel
  have hone : (0 : ℤ) < one := Nat.cast_pos.mpr hpos
  calc ofNat m = m * one := ofNat_of_le hm.le
    _ < (m + 1 : ℕ) * one := by
        push_cast
        linarith
    _ = ofNat (m + 1) := (ofNat_of_le hm).symm
    _ ≤ ofNat n := ofNat_mono h

theorem ofNat_eq_ofNat_iff {m n : ℕ} (hm : m < 2 ^ precision) : ofNat m = ofNat n ↔ m = n := by
  constructor
  · intro h
    rcases Nat.lt_trichotomy m n with hlt | heq | hgt
    · exact absurd h (ofNat_lt_ofNat hm hlt).ne
    · exact heq
    · exact absurd h (ofNat_lt_ofNat (hgt.trans hm) hgt).ne'
  · rintro rfl
    rfl

end TextTables.Double
