import TextTables.Proofs.Number.Whole
import TextTables.Proofs.Text.Words
import TextTables.Store
import TextTables.Token

/-!
# Names

A name consists of ASCII letters, digits and underscores.  So it holds nothing that
ends it in a statement or in a path, and in lower case it is a name of the same
length.
-/

namespace TextTables

namespace Token

/-- A text that is a name wherever a name is read: it is a token of its own, of the
category of names, and none of the words that count as values. -/
structure IsNameWord (word : String) : Prop where
  classify_eq : classify word = .ok .identifier
  ne_true : Text.sameWord word "TRUE" = false
  ne_false : Text.sameWord word "FALSE" = false

theorem isName_of_classify {fragment : String} (h : classify fragment = .ok .identifier) :
    isName fragment = true := by
  unfold classify at h
  repeat' split at h
  all_goals first | assumption | cases h

theorem IsNameWord.isName {word : String} (h : IsNameWord word) : Token.isName word = true :=
  isName_of_classify h.classify_eq

theorem isName_iff {word : String} :
    isName word = true ↔ word.toList ≠ [] ∧ ∀ c ∈ word.toList, isNameChar c = true := by
  simp [isName]

theorem IsNameWord.ne_star {word : String} (h : IsNameWord word) : word ≠ "*" := by
  rintro rfl
  exact absurd h.isName (by decide)

/-! ## The characters of names -/

theorem toNat_bounds_of_isNameChar {c : Char} (h : isNameChar c = true) :
    48 ≤ c.toNat ∧ c.toNat ≤ 122 := by
  simp only [isNameChar, Char.isAlphanum, Char.isAlpha, Char.isUpper, Char.isLower,
    Bool.or_eq_true, Bool.and_eq_true, decide_eq_true_eq, beq_iff_eq] at h
  rcases h with ((⟨hfirst, hlast⟩ | ⟨hfirst, hlast⟩) | hdigit) | rfl
  · exact ⟨Nat.le_trans (by decide) hfirst, Nat.le_trans hlast (by decide)⟩
  · exact ⟨Nat.le_trans (by decide) hfirst, Nat.le_trans hlast (by decide)⟩
  · obtain ⟨hlow, hhigh⟩ := Text.toNat_bounds_of_isDigit hdigit
    omega
  · decide

theorem not_isBlank_of_isNameChar {c : Char} (h : isNameChar c = true) :
    Text.isBlank c = false := by
  obtain ⟨hlow, hhigh⟩ := toNat_bounds_of_isNameChar h
  exact Text.not_isBlank_of_bounds hlow hhigh

theorem isAlpha_toLower_of_isUpper {c : Char} (h : c.isUpper = true) :
    c.toLower.isAlpha = true := by
  rw [Char.isAlpha_toLower_eq_isAlpha, Char.isAlpha, h, Bool.true_or]

theorem isNameChar_toLower {c : Char} (h : isNameChar c = true) :
    isNameChar c.toLower = true := by
  by_cases hupper : c.isUpper = true
  · have halpha := isAlpha_toLower_of_isUpper hupper
    rw [isNameChar, Char.isAlphanum, halpha, Bool.true_or, Bool.true_or]
  · rwa [Char.toLower_eq_of_not_isUpper hupper]

theorem utf8Size_of_isNameChar {c : Char} (h : isNameChar c = true) : c.utf8Size = 1 := by
  rw [Char.utf8Size_eq_one_iff]
  exact Nat.le_trans (toNat_bounds_of_isNameChar h).2 (by decide)

/-! ## Words of letters -/

theorem not_isDigit_of_isAlpha {c : Char} (h : c.isAlpha = true) : c.isDigit = false := by
  rw [Bool.eq_false_iff]
  intro hdigit
  obtain ⟨hlow, hhigh⟩ := Text.toNat_bounds_of_isDigit hdigit
  simp only [Char.isAlpha, Char.isUpper, Char.isLower, Bool.or_eq_true, Bool.and_eq_true,
    decide_eq_true_eq] at h
  rcases h with ⟨hfirst, _⟩ | ⟨hfirst, _⟩
  · exact absurd (Nat.le_trans hfirst hhigh) (by decide)
  · exact absurd (Nat.le_trans hfirst hhigh) (by decide)

/-- A word of the letters `A` to `Z` and `a` to `z`. -/
structure IsLetters (word : String) : Prop where
  ne_nil : word.toList ≠ []
  isAlpha : ∀ c ∈ word.toList, c.isAlpha = true

/-- A numeral begins with a sign or a digit. -/
theorem isNumeral_eq_false {word : String} {first : Char} {rest : List Char}
    (hchars : word.toList = first :: rest) (hdigit : first.isDigit = false)
    (hsign : first ≠ '+' ∧ first ≠ '-') : Decimal.isNumeral word = false := by
  have htake : Decimal.takeSign (first :: rest) = (false, first :: rest) := by
    unfold Decimal.takeSign
    split
    · next heq =>
        cases heq
        exact absurd rfl hsign.1
    · next heq =>
        cases heq
        exact absurd rfl hsign.2
    · rfl
  have hwhole : Decimal.areDigits ((first :: rest).takeWhile (· != '.')) = false := by
    by_cases hpoint : first = '.'
    · simp [hpoint, Decimal.areDigits]
    · simp [hpoint, Decimal.areDigits, hdigit]
  rw [Decimal.isNumeral, Decimal.ofText?, hchars, Decimal.ofChars?, htake]
  simp only [hwhole, Bool.false_and, Bool.false_eq_true, if_false]
  split <;> rfl

theorem IsLetters.isNumeral_eq_false {word : String} (h : IsLetters word) :
    Decimal.isNumeral word = false := by
  obtain ⟨first, rest, hchars⟩ := List.exists_cons_of_ne_nil h.ne_nil
  have halpha := h.isAlpha first (hchars ▸ List.mem_cons_self)
  refine Token.isNumeral_eq_false hchars (not_isDigit_of_isAlpha halpha) ⟨?_, ?_⟩
  · rintro rfl
    exact absurd halpha (by decide)
  · rintro rfl
    exact absurd halpha (by decide)

theorem IsLetters.contains_eq_false {word : String} (h : IsLetters word) {marks : List String}
    (hmarks : ∀ mark ∈ marks, mark.toList.any (!·.isAlpha) = true) :
    marks.contains word = false := by
  rw [List.contains_eq_mem, decide_eq_false_iff_not]
  intro hmem
  obtain ⟨c, hc, hnot⟩ := List.any_eq_true.mp (hmarks word hmem)
  rw [h.isAlpha c hc] at hnot
  cases hnot

theorem IsLetters.isLiteral_eq_false {word : String} (h : IsLetters word) :
    isLiteral word = false := by
  obtain ⟨first, rest, hchars⟩ := List.exists_cons_of_ne_nil h.ne_nil
  have hfirst : (first == Fragment.quote) = false := by
    apply beq_false_of_ne
    rintro rfl
    exact absurd (h.isAlpha Fragment.quote (hchars ▸ List.mem_cons_self)) (by decide)
  rw [isLiteral, hchars, unquoted?, hfirst]
  rfl

theorem IsLetters.isName {word : String} (h : IsLetters word) : Token.isName word = true := by
  refine isName_iff.mpr ⟨h.ne_nil, fun c hc => ?_⟩
  rw [isNameChar, Char.isAlphanum, h.isAlpha c hc, Bool.true_or, Bool.true_or]

/-- A word of letters is a word of the language, `AND`, `OR` or a name. -/
theorem IsLetters.classify_eq {word : String} (h : IsLetters word)
    (hkeyword : isKeyword word = false) (hlogical : isLogicalOperator word = false) :
    classify word = .ok .identifier := by
  have hsymbol : isSymbol word = false := h.contains_eq_false (by decide)
  have hoperator : isOperator word = false := h.contains_eq_false (by decide)
  simp [classify, hkeyword, hsymbol, hlogical, hoperator, h.isNumeral_eq_false,
    h.isLiteral_eq_false, h.isName]

theorem IsLetters.of_sameWord {word other : String} (h : IsLetters other)
    (hsame : Text.sameWord word other = true) : IsLetters word := by
  have hfolded := Text.sameWord_iff.mp hsame
  refine ⟨fun hnil => ?_, fun c hc => ?_⟩
  · have hother := h.ne_nil
    rw [Text.folded, hnil, List.map_nil, Text.folded, eq_comm, List.map_eq_nil_iff] at hfolded
    exact hother hfolded
  · have hmem : c.toLower ∈ Text.folded other := hfolded ▸ List.mem_map_of_mem hc
    obtain ⟨d, hd, hlower⟩ := List.mem_map.mp hmem
    rw [← Char.isAlpha_toLower_eq_isAlpha, ← hlower, Char.isAlpha_toLower_eq_isAlpha]
    exact h.isAlpha d hd

/-- A word is an identifier in any case if it is one in some case. -/
theorem IsLetters.classify_of_sameWord {word other : String} (h : IsLetters other)
    (hsame : Text.sameWord word other = true) (hkeyword : isKeyword other = false)
    (hlogical : isLogicalOperator other = false) : classify word = .ok .identifier := by
  refine (h.of_sameWord hsame).classify_eq ?_ ?_
  · rw [← hkeyword, isKeyword, isKeyword]
    congr 1
    funext keyword
    exact Text.sameWord_congr hsame keyword
  · rw [← hlogical, isLogicalOperator, isLogicalOperator, Text.sameWord_congr hsame,
      Text.sameWord_congr hsame]

end Token

/-! ## Names in lower case -/

namespace Text

theorem lowerAfter_of_forall_isNameChar {cs : List Char}
    (h : ∀ c ∈ cs, Token.isNameChar c = true) (before : List Char) :
    lowerAfter before cs = cs.map Char.toLower := by
  induction cs generalizing before with
  | nil => rfl
  | cons c rest ih =>
      have hc := Token.toNat_bounds_of_isNameChar (h c List.mem_cons_self)
      have hsigma : (c == 'Σ') = false := by
        apply beq_false_of_ne
        rintro rfl
        exact absurd hc.2 (by decide)
      have hascii : c.toNat.blt 0x80 = true := by
        rw [Nat.blt_eq]
        omega
      have hlower : lowerChar c = [c.toLower] := by rw [lowerChar, if_pos hascii]
      rw [lowerAfter, hsigma, if_neg Bool.false_ne_true, hlower,
        ih fun d hd => h d (List.mem_cons_of_mem _ hd)]
      rfl

end Text

theorem toList_storedName {name : String} (h : Token.isName name = true) :
    (storedName name).toList = name.toList.map Char.toLower := by
  rw [storedName, Text.toList_lower,
    Text.lowerAfter_of_forall_isNameChar (Token.isName_iff.mp h).2]

/-- Names are kept under the same key if they are the same up to case. -/
theorem storedName_eq_storedName_iff {name other : String} (h : Token.isName name = true)
    (hother : Token.isName other = true) :
    storedName name = storedName other ↔ Text.sameWord name other = true := by
  rw [Text.sameWord_iff, ← String.toList_inj, toList_storedName h, toList_storedName hother]
  rfl

/-- A key without capitals is that of a name if it is the same up to case. -/
theorem sameWord_iff_eq_storedName {key name : String} (hkey : Text.folded key = key.toList)
    (h : Token.isName name = true) :
    Text.sameWord key name = true ↔ key = storedName name := by
  rw [Text.sameWord_iff, ← String.toList_inj, toList_storedName h, hkey]
  rfl

theorem isName_storedName {name : String} (h : Token.isName name = true) :
    Token.isName (storedName name) = true := by
  obtain ⟨hne, hchars⟩ := Token.isName_iff.mp h
  refine Token.isName_iff.mpr ⟨?_, ?_⟩
  · rw [toList_storedName h]
    simpa using hne
  · intro c hc
    rw [toList_storedName h] at hc
    obtain ⟨d, hd, rfl⟩ := List.mem_map.mp hc
    exact Token.isNameChar_toLower (hchars d hd)

/-- A name has as many bytes as characters. -/
theorem utf8ByteSize_of_isName {name : String} (h : Token.isName name = true) :
    name.utf8ByteSize = name.toList.length := by
  have hsize : ∀ cs : List Char, (∀ c ∈ cs, Token.isNameChar c = true) →
      String.utf8Len cs = cs.length := by
    intro cs hcs
    induction cs with
    | nil => rfl
    | cons c rest ih =>
        rw [String.utf8Len_cons, Token.utf8Size_of_isNameChar (hcs c List.mem_cons_self),
          ih fun d hd => hcs d (List.mem_cons_of_mem _ hd), List.length_cons]
  have hlist := String.utf8ByteSize_ofList name.toList
  rw [String.ofList_toList] at hlist
  rw [hlist, hsize _ (Token.isName_iff.mp h).2]

theorem utf8ByteSize_storedName {name : String} (h : Token.isName name = true) :
    (storedName name).utf8ByteSize = name.utf8ByteSize := by
  rw [utf8ByteSize_of_isName (isName_storedName h), utf8ByteSize_of_isName h,
    toList_storedName h, List.length_map]

end TextTables
