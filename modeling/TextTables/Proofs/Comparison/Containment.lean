import TextTables.Proofs.Comparison.Order
import TextTables.Proofs.Text.Case
import TextTables.Proofs.Text.Pieces

/-!
# Containment without regard to case

`LIKE` looks for the lower case of one whole text in that of another.  So it finds the pieces
of a text that have in their place the lower case that they have alone.  That can fail for a
capital sigma only: at the end of a word, and there only, its lower case is `ς`, and a piece
may end where no word does.
-/

namespace TextTables.Comparison

open Decimal (isNumeral)
open Text (lower sameWord SigmasKept)

theorem occursIn_iff {part cs : List Char} : occursIn part cs = true ↔ part <:+: cs := by
  induction cs with
  | nil => rw [occursIn, List.isEmpty_iff, List.infix_nil]
  | cons c rest ih =>
      rw [occursIn, Bool.or_eq_true, ih, List.isPrefixOf_iff_prefix, List.infix_cons_iff]

/-- What is no numeral is found where its lower case stands in that of the value. -/
theorem holds_like_iff {sign : String} (hsign : sameWord sign "LIKE" = true)
    {value literal : String} (h : ¬(isNumeral value = true ∧ isNumeral literal = true)) :
    holds sign value literal = true ↔ (lower literal).toList <:+: (lower value).toList := by
  have hne : ∀ other ∈ ["==", "!="], sign ≠ other := by
    have hunlike : ∀ other ∈ ["==", "!="], sameWord other "LIKE" = false := by decide
    rintro other hother rfl
    rw [hunlike sign hother] at hsign
    cases hsign
  simp only [List.forall_mem_cons] at hne
  have htextual : textual sign value literal =
      occursIn (lower literal).toList (lower value).toList := by
    simp [textual, hne, hsign]
  rw [holds_of_not_isNumeral h, htextual, occursIn_iff]

/-- Every capital sigma of a piece has the lower case in the text that it has in the piece
alone. -/
def IsKept (before piece after : String) : Prop :=
  SigmasKept before.toList.reverse piece.toList after.toList

instance (before piece after : String) : Decidable (IsKept before piece after) :=
  decidable_of_iff _ (Text.lowerBetween_eq_lowerAfter_iff _ _ _)

theorem holds_like_of_isKept {sign : String} (hsign : sameWord sign "LIKE" = true)
    {before piece after : String} (h : IsKept before piece after)
    (hnumerals : ¬(isNumeral (before ++ piece ++ after) = true ∧ isNumeral piece = true)) :
    holds sign (before ++ piece ++ after) piece = true := by
  rw [holds_like_iff hsign hnumerals, Text.toList_lower, Text.toList_lower, String.toList_append,
    String.toList_append]
  exact h.isPart

/-- A text with a letter is no numeral. -/
theorem not_isNumeral_of_isAlpha {text : String} {c : Char} (hc : c ∈ text.toList)
    (halpha : c.isAlpha = true) : ¬isNumeral text = true := by
  rw [isNumeral, Decimal.ofText?, Decimal.ofChars?_eq_none_of_isAlpha hc halpha]
  exact Bool.false_ne_true

/-- A piece that is found beside a letter, on either side, is kept everywhere. -/
theorem isKept_of_holds_like {sign : String} (hsign : sameWord sign "LIKE" = true)
    {piece : String}
    (h : ∀ before after,
      ¬(isNumeral (before ++ piece ++ after) = true ∧ isNumeral piece = true) →
        holds sign (before ++ piece ++ after) piece = true) (before after : String) :
    IsKept before piece after := by
  have hend : ¬isNumeral ("" ++ piece ++ "A") = true :=
    not_isNumeral_of_isAlpha (List.mem_of_getLast? (by simp)) (rfl : 'A'.isAlpha = true)
  have hstart : ¬isNumeral ("A" ++ piece ++ "") = true :=
    not_isNumeral_of_isAlpha (List.mem_of_mem_head? (by simp)) (rfl : 'A'.isAlpha = true)
  have hafter := h "" "A" fun hboth => hend hboth.1
  have hbefore := h "A" "" fun hboth => hstart hboth.1
  rw [holds_like_iff hsign fun hboth => hend hboth.1, Text.toList_lower, Text.toList_lower,
    String.empty_append, String.toList_append] at hafter
  rw [holds_like_iff hsign fun hboth => hstart hboth.1, Text.toList_lower, Text.toList_lower,
    String.append_empty, String.toList_append] at hbefore
  exact Text.sigmasKept_of_letters (Text.sigmasKept_of_isPart_letter_after hafter)
    (Text.sigmasKept_of_isPart_letter_before hbefore) _ _

/-- **`LIKE` finds the pieces of a text whose capital sigmas keep their lower case.**  Whatever
stands before and after a piece, the text is `LIKE` the piece if every capital sigma of the
piece has the same lower case in the text and in the piece alone, unless both are numerals.
And a piece is found in all texts that it is a piece of exactly if its sigmas are kept in all
of them; one without a capital sigma always is. -/
theorem holds_like_piece {sign : String} (hsign : sameWord sign "LIKE" = true) (piece : String) :
    (∀ before after, IsKept before piece after →
      ¬(isNumeral (before ++ piece ++ after) = true ∧ isNumeral piece = true) →
        holds sign (before ++ piece ++ after) piece = true) ∧
    ((∀ before after,
      ¬(isNumeral (before ++ piece ++ after) = true ∧ isNumeral piece = true) →
        holds sign (before ++ piece ++ after) piece = true) ↔
      ∀ before after, IsKept before piece after) ∧
    ('Σ' ∉ piece.toList → ∀ before after, IsKept before piece after) := by
  refine ⟨fun before after => holds_like_of_isKept hsign, ⟨isKept_of_holds_like hsign, ?_⟩, ?_⟩
  · exact fun hkept before after => holds_like_of_isKept hsign (hkept before after)
  · rintro hnone before after left right heq
    rw [heq] at hnone
    exact absurd (List.mem_append_right left List.mem_cons_self) hnone

/-- The end of a word is found in it, and so is any piece of a word without a sigma. -/
theorem holds_like_piece_at_end :
    sameWord "like" "LIKE" = true ∧ holds "like" "ΟΔΟΣ" "ΟΣ" = true ∧
      holds "like" "Simon" "im" = true := by
  have hsign : sameWord "like" "LIKE" = true := by decide
  obtain ⟨hfound, _, _⟩ := holds_like_piece hsign "ΟΣ"
  obtain ⟨hfound', _, hnone⟩ := holds_like_piece hsign "im"
  exact ⟨hsign, hfound "ΟΔ" "" (by decide +kernel) (by decide +kernel),
    hfound' "S" "on" (hnone (by decide) "S" "on") (by decide +kernel)⟩

/-- The first two letters of a word of three are not found in it. -/
theorem holds_like_piece_ne_inside :
    "ΟΣΑ" = "" ++ "ΟΣ" ++ "Α" ∧ isNumeral "ΟΣΑ" = false ∧ isNumeral "ΟΣ" = false ∧
      holds "LIKE" "ΟΣΑ" "ΟΣ" = false := by
  decide +kernel

end TextTables.Comparison
