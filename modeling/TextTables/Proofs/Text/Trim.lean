import TextTables.Proofs.Text.Lower
import TextTables.Text.Blank

/-!
# Trimmed texts and their lower case

Trimming leaves a text alone exactly if it neither begins nor ends with a blank.  A
character becomes blank in lower case only if it was blank before, so a text is trimmed
exactly if its lower case is.
-/

namespace TextTables.Text

/-- Neither the first character nor the last one is blank. -/
def IsTight (cs : List Char) : Prop :=
  cs.head?.map isBlank ≠ some true ∧ cs.getLast?.map isBlank ≠ some true

/-! ## Trimming -/

theorem dropWhile_isBlank_eq_self {cs : List Char} (h : cs.head?.map isBlank ≠ some true) :
    cs.dropWhile isBlank = cs := by
  cases cs with
  | nil => rfl
  | cons c rest =>
      have hc : isBlank c = false := by simpa using h
      rw [List.dropWhile_cons, hc]
      rfl

theorem head?_dropWhile_isBlank (cs : List Char) :
    (cs.dropWhile isBlank).head?.map isBlank ≠ some true := by
  have hhead := List.head?_dropWhile_not isBlank cs
  cases h : (cs.dropWhile isBlank).head? with
  | none => simp
  | some c =>
      rw [h] at hhead
      simpa using hhead

theorem isTight_trimChars (cs : List Char) : IsTight (trimChars cs) := by
  have hlast : (trimChars cs).getLast? =
      ((cs.dropWhile isBlank).reverse.dropWhile isBlank).head? := List.getLast?_reverse
  constructor
  · by_cases hempty : trimChars cs = []
    · simp [hempty]
    · -- What is left begins where the text without the blanks before it begins.
      have hprefix : trimChars cs <+: cs.dropWhile isBlank := List.rdropWhile_prefix _ _
      obtain ⟨dropped, hdropped⟩ := hprefix
      rw [← List.head?_append_of_ne_nil _ hempty, hdropped]
      exact head?_dropWhile_isBlank cs
  · rw [hlast]
    exact head?_dropWhile_isBlank _

theorem trimChars_eq_self_iff {cs : List Char} : trimChars cs = cs ↔ IsTight cs := by
  constructor
  · intro h
    rw [← h]
    exact isTight_trimChars cs
  · rintro ⟨hhead, hlast⟩
    rw [← List.head?_reverse] at hlast
    rw [trimChars, dropWhile_isBlank_eq_self hhead, dropWhile_isBlank_eq_self hlast,
      List.reverse_reverse]

theorem trim_eq_self_iff {s : String} : trim s = s ↔ IsTight s.toList := by
  rw [← trimChars_eq_self_iff, ← String.toList_inj, toList_trim]

/-! ## Blanks in lower case -/

/-- No capital letter is blank, and no small letter is. -/
theorem capitalRuns_beside_blankRanges :
    ∀ run ∈ capitalRuns, ∀ range ∈ blankRanges,
      (range.last < run.first ∨ run.last < range.first) ∧
        ((range.last : Int) < run.first + run.shift ∨
          (run.last : Int) + run.shift < range.first) := by
  decide +kernel

theorem isBlank_of_holds {run : CapitalRun} (hrun : run ∈ capitalRuns) {c : Char}
    (h : run.holds c.toNat = true) :
    isBlank c = false ∧ isBlank (Char.ofNat (Int.ofNat c.toNat + run.shift).toNat) = false := by
  simp only [CapitalRun.holds, Bool.and_eq_true, Nat.ble_eq] at h
  constructor
  · rw [Bool.eq_false_iff]
    intro hblank
    obtain ⟨range, hrange, hfirst, hlast⟩ := inRanges_iff.mp hblank
    have hbeside := (capitalRuns_beside_blankRanges run hrun range hrange).1
    omega
  · rw [Bool.eq_false_iff]
    intro hblank
    obtain ⟨range, hrange, hfirst, hlast⟩ := inRanges_iff.mp hblank
    have hbeside := (capitalRuns_beside_blankRanges run hrun range hrange).2
    have hpos : ∀ range ∈ blankRanges, 0 < range.first := by decide
    have hfirst_pos := hpos range hrange
    rw [Char.toNat_ofNat] at hfirst hlast
    by_cases hvalid : (Int.ofNat c.toNat + run.shift).toNat.isValidChar
    · rw [if_pos hvalid, Int.ofNat_eq_natCast] at hfirst hlast
      omega
    · rw [if_neg hvalid] at hfirst
      omega

theorem isBlank_of_mem_lowerChar {c d : Char} (h : d ∈ lowerChar c) : isBlank d = isBlank c := by
  unfold lowerChar at h
  split at h
  · next hascii =>
      rw [List.mem_singleton.mp h]
      have hlow : ∀ n < 0x80, isBlank (Char.ofNat n).toLower = isBlank (Char.ofNat n) := by
        decide +kernel
      rw [Nat.blt_eq] at hascii
      simpa using hlow c.toNat hascii
  · split at h
    · next hdotted =>
        rw [beq_iff_eq.mp hdotted]
        rcases List.mem_cons.mp h with rfl | h
        · decide
        · rw [List.mem_singleton.mp h]
          decide
    · split at h
      · next run hrun =>
          have hholds := List.find?_some hrun
          obtain ⟨hcapital, hsmall⟩ := isBlank_of_holds (List.mem_of_find?_eq_some hrun) hholds
          rw [List.mem_singleton.mp h, hcapital, hsmall]
      · rw [List.mem_singleton.mp h]

theorem lowerChar_ne_nil (c : Char) : lowerChar c ≠ [] := by
  unfold lowerChar
  split
  · exact List.cons_ne_nil _ _
  · split
    · exact List.cons_ne_nil _ _
    · split
      · exact List.cons_ne_nil _ _
      · exact List.cons_ne_nil _ _

theorem not_isBlank_lowerSigma (before after : List Char) :
    isBlank (lowerSigma before after) = false := by
  unfold lowerSigma
  split
  · decide
  · decide

/-- A character becomes one character or more, all of them blank if it is. -/
theorem exists_lowerAfter_cons (before : List Char) (c : Char) (rest : List Char) :
    ∃ small, lowerAfter before (c :: rest) = small ++ lowerAfter (c :: before) rest ∧
      small ≠ [] ∧ ∀ d ∈ small, isBlank d = isBlank c := by
  by_cases hsigma : c = 'Σ'
  · refine ⟨[lowerSigma before rest], ?_, List.cons_ne_nil _ _, ?_⟩
    · rw [lowerAfter, if_pos (beq_iff_eq.mpr hsigma)]
      rfl
    · intro d hd
      rw [List.mem_singleton.mp hd, not_isBlank_lowerSigma, hsigma]
      decide
  · refine ⟨lowerChar c, ?_, lowerChar_ne_nil c, fun d hd => isBlank_of_mem_lowerChar hd⟩
    rw [lowerAfter, if_neg (by simpa using hsigma)]

theorem head?_lowerAfter (before cs : List Char) :
    (lowerAfter before cs).head?.map isBlank = cs.head?.map isBlank := by
  cases cs with
  | nil => rfl
  | cons c rest =>
      obtain ⟨small, hlower, hne, hblank⟩ := exists_lowerAfter_cons before c rest
      obtain ⟨d, more, rfl⟩ := List.exists_cons_of_ne_nil hne
      rw [hlower]
      exact congrArg some (hblank d List.mem_cons_self)

theorem lowerAfter_eq_nil_iff {before cs : List Char} : lowerAfter before cs = [] ↔ cs = [] := by
  have hhead := head?_lowerAfter before cs
  constructor
  · intro h
    rw [h] at hhead
    simpa using hhead.symm
  · rintro rfl
    rfl

theorem getLast?_lowerAfter (before cs : List Char) :
    (lowerAfter before cs).getLast?.map isBlank = cs.getLast?.map isBlank := by
  induction cs generalizing before with
  | nil => rfl
  | cons c rest ih =>
      obtain ⟨small, hlower, hne, hblank⟩ := exists_lowerAfter_cons before c rest
      rw [hlower]
      by_cases hrest : rest = []
      · have hlast : small.getLast?.map isBlank = some (isBlank c) := by
          rw [List.getLast?_eq_some_getLast hne, Option.map_some,
            hblank _ (List.getLast_mem hne)]
        simpa [hrest, lowerAfter] using hlast
      · have hmore : lowerAfter (c :: before) rest ≠ [] := mt lowerAfter_eq_nil_iff.mp hrest
        rw [List.getLast?_append_of_ne_nil _ hmore, ih,
          List.getLast?_cons_of_ne_nil hrest]

theorem isTight_lower_iff (s : String) : IsTight (lower s).toList ↔ IsTight s.toList := by
  rw [IsTight, IsTight, toList_lower, head?_lowerAfter, getLast?_lowerAfter]

/-- What is equal to a trimmed text in lower case is trimmed. -/
theorem trim_eq_self_of_lower_eq {s t : String} (h : lower (trim s) = lower t) : trim t = t := by
  have htight : IsTight (trim s).toList := by
    rw [toList_trim]
    exact isTight_trimChars s.toList
  rw [trim_eq_self_iff, ← isTight_lower_iff, ← h, isTight_lower_iff]
  exact htight

end TextTables.Text
