import TextTables.Proofs.Token.Names
import TextTables.Row

/-!
# Characters that only literals hold

Names, ids, headings and the words of the language itself are made of few characters.  Any
other character is foreign to them, so where it turns up in a table or in a message, it was
written in the text of a statement.
-/

namespace TextTables

namespace Text

/-- The text does not hold the character. -/
def FreeOf (c : Char) (s : String) : Prop :=
  c ∉ s.toList

instance (c : Char) (s : String) : Decidable (FreeOf c s) :=
  inferInstanceAs (Decidable (_ ∉ _))

/-- A character of no name and no number.  The dot joins two names in a heading, and quotes
stand around literals. -/
structure Foreign (c : Char) : Prop where
  not_name : Token.isNameChar c = false
  not_minus : c ≠ '-'
  not_dot : c ≠ '.'
  not_quote : c ≠ Fragment.quote

theorem foreign_tab : Foreign '\t' :=
  ⟨by decide, by decide, by decide, by decide⟩

theorem foreign_lineFeed : Foreign '\n' :=
  ⟨by decide, by decide, by decide, by decide⟩

theorem foreign_endOfTransmission : Foreign '\x04' :=
  ⟨by decide, by decide, by decide, by decide⟩

variable {c : Char} {s t : String}

theorem freeOf_append : FreeOf c (s ++ t) ↔ FreeOf c s ∧ FreeOf c t := by
  simp [FreeOf]

theorem freeOf_ofList {cs : List Char} (h : c ∉ cs) : FreeOf c (String.ofList cs) := by
  rwa [FreeOf, String.toList_ofList]

theorem FreeOf.mono (h : FreeOf c s) (hsubset : t.toList ⊆ s.toList) : FreeOf c t :=
  fun hmem => h (hsubset hmem)

theorem Foreign.freeOf (hc : Foreign c)
    (h : ∀ d ∈ s.toList, Token.isNameChar d = true) : FreeOf c s := by
  intro hmem
  have hname := h c hmem
  rw [hc.not_name] at hname
  cases hname

theorem Foreign.freeOf_of_isName (hc : Foreign c) (h : Token.isName s = true) : FreeOf c s :=
  hc.freeOf (Token.isName_iff.mp h).2

theorem Foreign.freeOf_null (hc : Foreign c) : FreeOf c Row.null :=
  hc.freeOf_of_isName (by decide)

end Text

namespace Token

theorem isNameChar_of_isDigit {c : Char} (h : c.isDigit = true) : isNameChar c = true := by
  rw [isNameChar, Char.isAlphanum, h, Bool.or_true, Bool.true_or]

/-- The content of a literal is part of it. -/
theorem toList_stripQuotes_subset (value : String) :
    (stripQuotes value).toList ⊆ value.toList := by
  unfold stripQuotes
  split
  · next content hcontent =>
      rw [String.toList_ofList]
      unfold unquoted? at hcontent
      split at hcontent
      · cases hcontent
      · next c rest hlist =>
          split at hcontent
          · cases hcontent
            rw [hlist]
            exact List.subset_cons_of_subset _ (List.dropLast_subset rest)
          · cases hcontent
  · exact List.Subset.refl _

theorem freeOf_stripQuotes {c : Char} {value : String} (h : Text.FreeOf c value) :
    Text.FreeOf c (stripQuotes value) :=
  h.mono (toList_stripQuotes_subset value)

end Token

theorem Text.Foreign.freeOf_toText {c : Char} (hc : Text.Foreign c) (n : Int) :
    Text.FreeOf c (Whole.toText n) := by
  have hdigits : ∀ n : Nat, Text.FreeOf c (Nat.repr n) := fun n =>
    hc.freeOf fun d hd => Token.isNameChar_of_isDigit (Whole.isDigit_of_mem_toText (n := n) hd)
  cases n with
  | ofNat n => exact hdigits n
  | negSucc n =>
      refine Text.freeOf_append.mpr ⟨?_, hdigits (n + 1)⟩
      intro hmem
      exact hc.not_minus (List.mem_singleton.mp hmem)

end TextTables
