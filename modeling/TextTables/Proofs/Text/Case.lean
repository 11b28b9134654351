import TextTables.Proofs.Text.Lower
import TextTables.Proofs.Token.Names
import TextTables.Text.Blank

/-!
# Texts up to the case of their letters

Two texts are the same up to the case of the letters `A` to `Z` if they are equal once
these letters are made small.  Whatever looks at characters only to tell blanks, digits,
quotes or marks, or to take the lower case, sees no difference.
-/

namespace TextTables.Text

/-- A text with the letters `A` to `Z` made small. -/
def small (s : String) : String :=
  String.ofList (folded s)

@[simp] theorem toList_small (s : String) : (small s).toList = s.toList.map Char.toLower := by
  rw [small, String.toList_ofList, folded]

theorem small_eq_small_iff {s t : String} : small s = small t ↔ folded s = folded t := by
  rw [small, small, String.ofList_inj]

theorem small_eq_small_iff_sameWord {s t : String} :
    small s = small t ↔ sameWord s t = true := by
  rw [small_eq_small_iff, sameWord_iff]

theorem sameWord_small (s t : String) : sameWord (small s) t = sameWord s t := by
  rw [sameWord, folded, toList_small, List.map_map, sameWord, folded]
  congr 2
  funext c
  exact Char.toLower_toLower_eq_toLower c

theorem small_small (s : String) : small (small s) = small s := by
  rw [small_eq_small_iff_sameWord, sameWord_small]
  exact sameWord_refl s

theorem sameWord_small_right (s t : String) : sameWord s (small t) = sameWord s t := by
  rw [sameWord_comm, sameWord_small, sameWord_comm]

theorem capitals_small (s : String) : capitals (small s) = capitals s := by
  apply capitals_eq_of_sameWord
  rw [sameWord_small]
  exact sameWord_refl s

theorem small_ofList (cs : List Char) :
    small (String.ofList cs) = String.ofList (cs.map Char.toLower) := by
  rw [small, folded, String.toList_ofList]

/-! ## Characters -/

/-- What is the same for the 26 small letters and their capitals is the same for a
character and its small form. -/
theorem apply_toLower {α : Type} (p : Char → α)
    (h : ∀ n < 26, p (Char.ofNat (97 + n)) = p (Char.ofNat (65 + n))) (c : Char) :
    p c.toLower = p c := by
  by_cases hupper : c.isUpper = true
  · have hbounds : 65 ≤ c.toNat ∧ c.toNat ≤ 90 := by
      rw [Char.isUpper, decide_eq_true_eq] at hupper
      exact hupper
    have hcode := h (c.toNat - 65) (by omega)
    have hsmall : 97 + (c.toNat - 65) = c.toNat + 32 := by omega
    have hcapital : 65 + (c.toNat - 65) = c.toNat := by omega
    rw [hsmall, hcapital, Char.ofNat_toNat] at hcode
    rw [Char.toLower_eq_of_isUpper hupper, hcode]
  · rw [Char.toLower_eq_of_not_isUpper hupper]

theorem isBlank_toLower (c : Char) : isBlank c.toLower = isBlank c :=
  apply_toLower isBlank (by decide) c

theorem isCased_toLower (c : Char) : inRanges casedRanges c.toLower = inRanges casedRanges c :=
  apply_toLower (inRanges casedRanges) (by decide +kernel) c

theorem isIgnorable_toLower (c : Char) :
    inRanges caseIgnorableRanges c.toLower = inRanges caseIgnorableRanges c :=
  apply_toLower (inRanges caseIgnorableRanges) (by decide +kernel) c

/-- Characters that are no letters are told from all others in any case. -/
theorem toLower_beq {d : Char} (h : d.isAlpha = false) (c : Char) :
    (c.toLower == d) = (c == d) := by
  rw [Bool.eq_iff_iff, beq_iff_eq, beq_iff_eq]
  constructor
  · intro heq
    have hupper : ¬c.isUpper = true := by
      intro hupper
      have halpha : c.toLower.isAlpha = true := by
        rw [Char.isAlpha_toLower_eq_isAlpha, Char.isAlpha, hupper, Bool.true_or]
      rw [heq, h] at halpha
      cases halpha
    rwa [Char.toLower_eq_of_not_isUpper hupper] at heq
  · rintro rfl
    apply Char.toLower_eq_of_not_isUpper
    intro hupper
    rw [Char.isAlpha, hupper, Bool.true_or] at h
    cases h

theorem toLower_eq_iff {d : Char} (h : d.isAlpha = false) {c : Char} :
    c.toLower = d ↔ c = d := by
  rw [← beq_iff_eq, toLower_beq h, beq_iff_eq]

/-! ## Texts -/

/-- Characters that are no letters are the same in any case. -/
theorem map_toLower_eq_iff {cs ds : List Char} (h : ∀ d ∈ ds, d.isAlpha = false) :
    cs.map Char.toLower = ds ↔ cs = ds := by
  induction cs generalizing ds with
  | nil => rfl
  | cons c rest ih =>
      cases ds with
      | nil => simp
      | cons d more =>
          obtain ⟨hd, hmore⟩ := List.forall_mem_cons.mp h
          rw [List.map_cons, List.cons.injEq, List.cons.injEq, toLower_eq_iff hd, ih hmore]

/-- A mark without letters is told from all other texts in any case. -/
theorem small_beq {mark : String} (h : mark.toList.all (!·.isAlpha) = true) (s : String) :
    (small s == mark) = (s == mark) := by
  rw [Bool.eq_iff_iff, beq_iff_eq, beq_iff_eq, ← String.toList_inj, toList_small,
    map_toLower_eq_iff, String.toList_inj]
  intro c hc
  simpa using List.all_eq_true.mp h c hc

/-! ## Lower case -/

theorem meetsCased_map_toLower (cs : List Char) :
    meetsCased (cs.map Char.toLower) = meetsCased cs := by
  have hignored : inRanges caseIgnorableRanges ∘ Char.toLower = inRanges caseIgnorableRanges :=
    funext isIgnorable_toLower
  rw [meetsCased, List.dropWhile_map, hignored, meetsCased]
  cases cs.dropWhile (inRanges caseIgnorableRanges) with
  | nil => rfl
  | cons c rest => exact isCased_toLower c

theorem lowerChar_toLower (c : Char) : lowerChar c.toLower = lowerChar c :=
  apply_toLower lowerChar (by decide) c

theorem lowerAfter_map_toLower (before cs : List Char) :
    lowerAfter (before.map Char.toLower) (cs.map Char.toLower) = lowerAfter before cs := by
  induction cs generalizing before with
  | nil => rfl
  | cons c rest ih =>
      have hrest := ih (c :: before)
      rw [List.map_cons] at hrest
      rw [List.map_cons, lowerAfter, lowerAfter, toLower_beq (by decide), hrest,
        lowerChar_toLower, lowerSigma, lowerSigma, meetsCased_map_toLower,
        meetsCased_map_toLower]

/-- The lower case of a text does not depend on the case of its letters. -/
theorem lower_small (s : String) : lower (small s) = lower s := by
  rw [lower, toList_small, lower]
  exact congrArg String.ofList (lowerAfter_map_toLower [] s.toList)

end TextTables.Text

namespace TextTables.Decimal

/-! ## Numerals -/

theorem areDigits_eq_false {cs : List Char} {c : Char} (hc : c ∈ cs)
    (hdigit : c.isDigit = false) : areDigits cs = false := by
  have hall : cs.all Char.isDigit = false :=
    List.all_eq_false.mpr ⟨c, hc, Bool.eq_false_iff.mp hdigit⟩
  rw [areDigits, hall, Bool.and_false]

theorem mem_takeSign {cs : List Char} {c : Char} (hc : c ∈ cs) (hsign : c ≠ '+' ∧ c ≠ '-') :
    c ∈ (takeSign cs).2 := by
  unfold takeSign
  split
  · exact (List.mem_cons.mp hc).resolve_left hsign.1
  · exact (List.mem_cons.mp hc).resolve_left hsign.2
  · exact hc

/-- Nothing but digits, a sign and a point stands in a numeral. -/
theorem ofChars?_eq_none {cs : List Char} {c : Char} (hc : c ∈ cs) (hdigit : c.isDigit = false)
    (hsign : c ≠ '+' ∧ c ≠ '-') (hpoint : c ≠ '.') : ofChars? cs = none := by
  have hunsigned : c ∈ (takeSign cs).2 := mem_takeSign hc hsign
  -- The character stands before the point or behind it, and both parts have to be digits.
  rw [← List.takeWhile_append_dropWhile (p := (· != '.')) (l := (takeSign cs).2)] at hunsigned
  simp only [ofChars?]
  cases hdrop : (takeSign cs).2.dropWhile (· != '.') with
  | nil =>
      rw [hdrop, List.append_nil] at hunsigned
      rw [areDigits_eq_false hunsigned hdigit]
      rfl
  | cons point fraction =>
      have hhead : point = '.' := by
        have hhead := List.head?_dropWhile_not (· != '.') (takeSign cs).2
        rw [hdrop] at hhead
        simpa using hhead
      rw [hdrop, hhead] at hunsigned
      rcases List.mem_append.mp hunsigned with hwhole | hrest
      · rw [areDigits_eq_false hwhole hdigit]
        rfl
      · have hfraction : c ∈ fraction := (List.mem_cons.mp hrest).resolve_left hpoint
        simp only [areDigits_eq_false hfraction hdigit, Bool.and_false, Bool.false_eq_true,
          if_false]

theorem ofChars?_eq_none_of_isAlpha {cs : List Char} {c : Char} (hc : c ∈ cs)
    (halpha : c.isAlpha = true) : ofChars? cs = none := by
  have hne : ∀ d : Char, d.isAlpha = false → c ≠ d := by
    rintro d hd rfl
    rw [halpha] at hd
    cases hd
  exact ofChars?_eq_none hc (Token.not_isDigit_of_isAlpha halpha)
    ⟨hne '+' (by decide), hne '-' (by decide)⟩ (hne '.' (by decide))

theorem ofText?_small (s : String) : ofText? (Text.small s) = ofText? s := by
  rw [ofText?, Text.toList_small, ofText?]
  by_cases hletters : ∃ c ∈ s.toList, c.isAlpha = true
  · obtain ⟨c, hc, halpha⟩ := hletters
    have hsmall : c.toLower.isAlpha = true := by
      rwa [Char.isAlpha_toLower_eq_isAlpha]
    rw [ofChars?_eq_none_of_isAlpha hc halpha,
      ofChars?_eq_none_of_isAlpha (List.mem_map_of_mem hc) hsmall]
  · have hnone : ∀ c ∈ s.toList, c.isAlpha = false := by
      intro c hc
      exact Bool.eq_false_iff.mpr fun halpha => hletters ⟨c, hc, halpha⟩
    rw [(Text.map_toLower_eq_iff hnone).mpr rfl]

end TextTables.Decimal
