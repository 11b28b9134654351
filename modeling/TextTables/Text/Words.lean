/-!
# Words that differ only in the case of their letters

Words of the statement language and names of columns are compared with the
letters `A` to `Z` and `a` to `z` identified, and no others.
-/

namespace TextTables.Text

/-- A text with the letters `A` to `Z` made small. -/
def folded (s : String) : List Char :=
  s.toList.map Char.toLower

/-- Equality up to the case of the letters `A` to `Z`. -/
def sameWord (s t : String) : Bool :=
  folded s == folded t

/-- A text with the letters `a` to `z` made capital. -/
def capitals (s : String) : String :=
  String.ofList (s.toList.map Char.toUpper)

theorem sameWord_iff {s t : String} :
    sameWord s t = true ↔ folded s = folded t := by
  simp [sameWord]

theorem sameWord_refl (s : String) : sameWord s s = true := by
  simp [sameWord]

theorem sameWord_comm (s t : String) : sameWord s t = sameWord t s := by
  rw [Bool.eq_iff_iff, sameWord_iff, sameWord_iff]
  exact eq_comm

end TextTables.Text
