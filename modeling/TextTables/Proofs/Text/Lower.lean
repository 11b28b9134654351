import Mathlib
import TextTables.Text.Lower
import TextTables.Text.Words

/-!
# What lower case keeps and what it takes away

No capital of the letters `A` to `Z` is left in the lower case of a text.
-/

namespace TextTables.Text

/-! ## Capitals that are taken away -/

theorem toLower_ofNat_eq_self {code : Nat} (h : 90 < code) :
    (Char.ofNat code).toLower = Char.ofNat code := by
  apply Char.toLower_eq_of_not_isUpper
  intro hupper
  have hbounds : (Char.ofNat code).toNat ≤ 90 := by
    rw [Char.isUpper, decide_eq_true_eq] at hupper
    exact hupper.2
  rw [Char.toNat_ofNat] at hbounds
  split at hbounds
  · omega
  · next hinvalid =>
      rw [Char.ofNat, dif_neg hinvalid] at hupper
      exact absurd hupper (by decide)

/-- Small letters beyond `a` to `z` stand beyond `Z` too. -/
theorem small_of_mem_capitalRuns : ∀ run ∈ capitalRuns, (90 : Int) < run.first + run.shift := by
  decide +kernel

theorem toLower_eq_of_mem_lowerChar {c d : Char} (h : d ∈ lowerChar c) : d.toLower = d := by
  unfold lowerChar at h
  split at h
  · rw [List.mem_singleton.mp h]
    exact Char.toLower_toLower_eq_toLower c
  · next hascii =>
      split at h
      · rcases List.mem_cons.mp h with rfl | h
        · decide
        · rw [List.mem_singleton.mp h]
          decide
      · split at h
        · next run hrun =>
            rw [List.mem_singleton.mp h]
            apply toLower_ofNat_eq_self
            have hsmall := small_of_mem_capitalRuns run (List.mem_of_find?_eq_some hrun)
            have hholds := List.find?_some hrun
            simp only [CapitalRun.holds, Bool.and_eq_true, Nat.ble_eq] at hholds
            rw [Int.ofNat_eq_natCast]
            omega
        · rw [List.mem_singleton.mp h]
          apply Char.toLower_eq_of_not_isUpper
          intro hupper
          rw [Char.isUpper, decide_eq_true_eq] at hupper
          rw [Nat.blt_eq] at hascii
          have hlast : c.toNat ≤ 90 := hupper.2
          omega

theorem toLower_eq_of_mem_lowerAfter {before cs : List Char} {d : Char}
    (h : d ∈ lowerAfter before cs) : d.toLower = d := by
  induction cs generalizing before with
  | nil => cases h
  | cons c rest ih =>
      rw [lowerAfter] at h
      split at h
      · rcases List.mem_cons.mp h with rfl | h
        · unfold lowerSigma
          split
          · decide
          · decide
        · exact ih h
      · rcases List.mem_append.mp h with h | h
        · exact toLower_eq_of_mem_lowerChar h
        · exact ih h

theorem folded_lower (s : String) : folded (lower s) = (lower s).toList := by
  rw [folded, toList_lower]
  have hkept : ∀ d ∈ lowerAfter [] s.toList, d.toLower = id d :=
    fun d hd => toLower_eq_of_mem_lowerAfter hd
  rw [List.map_congr_left hkept, List.map_id]

end TextTables.Text
