import TextTables.Proofs.Text.Split
import TextTables.Text.Lines

/-!
# Lines that survive a file

Lines are written with a line feed after each, and read again as the pieces between
line feeds, each without a carriage return at its end.  So exactly those lines come
back that hold no line feed and do not end in a carriage return.
-/

namespace TextTables.Text

/-- A text that is one line of a file. -/
def IsLine (text : String) : Prop :=
  '\n' ∉ text.toList ∧ text.toList.getLast? ≠ some '\r'

instance (text : String) : Decidable (IsLine text) :=
  inferInstanceAs (Decidable (_ ∧ _))

/-- A text without the carriage return at its end. -/
def withoutReturn (text : String) : String :=
  String.ofList (dropReturn text.toList)

theorem dropReturn_eq_self_iff {cs : List Char} :
    dropReturn cs = cs ↔ cs.getLast? ≠ some '\r' := by
  unfold dropReturn
  split
  · next hlast =>
      have hlast := beq_iff_eq.mp hlast
      refine ⟨fun h => ?_, fun h => absurd hlast h⟩
      have hne : cs ≠ [] := by
        rintro rfl
        cases hlast
      have hlength := congrArg List.length h
      rw [List.length_dropLast] at hlength
      have hpos := List.length_pos_iff.mpr hne
      omega
  · next hlast => exact ⟨fun _ h => hlast (beq_iff_eq.mpr h), fun _ => rfl⟩

theorem withoutReturn_eq_self_iff {text : String} :
    withoutReturn text = text ↔ text.toList.getLast? ≠ some '\r' := by
  rw [← dropReturn_eq_self_iff, withoutReturn]
  constructor
  · intro h
    have hlist := congrArg String.toList h
    rwa [String.toList_ofList] at hlist
  · intro h
    rw [h, String.ofList_toList]

theorem dropReturn_subset (cs : List Char) : dropReturn cs ⊆ cs := by
  unfold dropReturn
  split
  · exact List.dropLast_subset cs
  · exact List.Subset.refl cs

/-! ## Lines that are read -/

/-- No line holds a line feed. -/
theorem not_mem_of_mem_lines {text line : String} (h : line ∈ lines text) :
    '\n' ∉ line.toList := by
  obtain ⟨cs, hcs, rfl⟩ := List.mem_map.mp h
  rw [String.toList_ofList]
  rw [linesOfChars] at hcs
  rcases List.mem_append.mp hcs with hcs | hcs
  · obtain ⟨piece, hpiece, rfl⟩ := List.mem_map.mp hcs
    exact fun hmem => not_mem_of_mem_splitOn (List.dropLast_subset _ hpiece)
      (dropReturn_subset piece hmem)
  · split at hcs
    · cases hcs
    · rw [List.mem_singleton] at hcs
      rw [hcs]
      cases hlast : (text.toList.splitOn '\n').getLast? with
      | none => exact List.not_mem_nil
      | some piece => exact not_mem_of_mem_splitOn (List.mem_of_getLast? hlast)

/-! ## Lines that are written -/

theorem toList_ofLines_cons (item : String) (rest : List String) :
    (ofLines (item :: rest)).toList = item.toList ++ '\n' :: (ofLines rest).toList := by
  simp [ofLines]

theorem splitOn_ofLines {items : List String} (h : ∀ item ∈ items, '\n' ∉ item.toList) :
    (ofLines items).toList.splitOn '\n' = items.map String.toList ++ [[]] := by
  induction items with
  | nil => rfl
  | cons item rest ih =>
      rw [toList_ofLines_cons,
        List.splitOn_append_cons_self_of_not_mem (h item List.mem_cons_self),
        ih fun other hother => h other (List.mem_cons_of_mem _ hother)]
      rfl

/-- Without line feeds inside, only carriage returns at the ends of lines are lost. -/
theorem lines_ofLines {items : List String} (h : ∀ item ∈ items, '\n' ∉ item.toList) :
    lines (ofLines items) = items.map withoutReturn := by
  rw [lines, linesOfChars, splitOn_ofLines h]
  simp [withoutReturn]

/-- **Lines come back** exactly if each of them is a line of a file. -/
theorem lines_ofLines_eq_self_iff {items : List String} :
    lines (ofLines items) = items ↔ ∀ item ∈ items, IsLine item := by
  constructor
  · intro h item hitem
    have hfree : ∀ other ∈ items, '\n' ∉ other.toList := by
      intro other hother
      rw [← h] at hother
      exact not_mem_of_mem_lines hother
    refine ⟨hfree item hitem, withoutReturn_eq_self_iff.mp ?_⟩
    have hmap : items.map withoutReturn = items.map id := by
      rw [← lines_ofLines hfree, h, List.map_id]
    exact List.map_inj_left.mp hmap item hitem
  · intro h
    have hkept : items.map withoutReturn = items.map id :=
      List.map_congr_left fun item hitem => withoutReturn_eq_self_iff.mpr (h item hitem).2
    rw [lines_ofLines fun item hitem => (h item hitem).1, hkept, List.map_id]

end TextTables.Text
