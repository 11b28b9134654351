import Mathlib
import TextTables.Text.Words

/-!
# Words up to case

The same word has the same capitals, and compares with every other word alike.
-/

namespace TextTables.Text

theorem capitals_eq_ofList_folded (s : String) :
    capitals s = String.ofList ((folded s).map Char.toUpper) := by
  have hupper : Char.toUpper ∘ Char.toLower = Char.toUpper := by
    funext c
    exact Char.toUpper_toLower_eq_toUpper c
  rw [capitals, folded, List.map_map, hupper]

theorem capitals_eq_of_sameWord {s t : String} (h : sameWord s t = true) :
    capitals s = capitals t := by
  rw [capitals_eq_ofList_folded, capitals_eq_ofList_folded, sameWord_iff.mp h]

theorem sameWord_congr {s t : String} (h : sameWord s t = true) (u : String) :
    sameWord s u = sameWord t u := by
  rw [sameWord, sameWord, sameWord_iff.mp h]

theorem sameWord_capitals (s t : String) : sameWord (capitals s) t = sameWord s t := by
  have hlower : Char.toLower ∘ Char.toUpper = Char.toLower := by
    funext c
    exact Char.toLower_toUpper_eq_toLower c
  rw [sameWord, folded, capitals, String.toList_ofList, List.map_map, hlower, sameWord]
  rfl

end TextTables.Text
