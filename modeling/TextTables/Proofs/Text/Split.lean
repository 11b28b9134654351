/-!
# Pieces between separators

What splitting a list at a separator leaves in the pieces, and how many there are.
-/

namespace TextTables.Text

variable {α : Type} [BEq α] [LawfulBEq α] {separator : α} {items piece : List α}

theorem not_mem_of_mem_splitOn (h : piece ∈ items.splitOn separator) : separator ∉ piece := by
  induction items generalizing piece with
  | nil =>
      rw [List.splitOn_nil, List.mem_singleton] at h
      rw [h]
      exact List.not_mem_nil
  | cons first rest ih =>
      rw [List.splitOn_cons_eq_if_modifyHead] at h
      by_cases hfirst : first = separator
      · rw [if_pos (beq_iff_eq.mpr hfirst)] at h
        rcases List.mem_cons.mp h with rfl | h
        · exact List.not_mem_nil
        · exact ih h
      · rw [if_neg (fun heq => hfirst (beq_iff_eq.mp heq))] at h
        cases hpieces : rest.splitOn separator with
        | nil => exact absurd hpieces (List.splitOn_ne_nil separator rest)
        | cons head tail =>
            rw [hpieces, List.modifyHead_cons] at h
            rw [hpieces] at ih
            rcases List.mem_cons.mp h with rfl | h
            · intro hmem
              rcases List.mem_cons.mp hmem with heq | hmem
              · exact hfirst heq.symm
              · exact ih List.mem_cons_self hmem
            · exact ih (List.mem_cons_of_mem _ h)

theorem subset_of_mem_splitOn (h : piece ∈ items.splitOn separator) : piece ⊆ items := by
  induction items generalizing piece with
  | nil =>
      rw [List.splitOn_nil, List.mem_singleton] at h
      rw [h]
      exact List.Subset.refl []
  | cons first rest ih =>
      rw [List.splitOn_cons_eq_if_modifyHead] at h
      by_cases hfirst : first = separator
      · rw [if_pos (beq_iff_eq.mpr hfirst)] at h
        rcases List.mem_cons.mp h with rfl | h
        · exact List.nil_subset _
        · exact List.subset_cons_of_subset _ (ih h)
      · rw [if_neg (fun heq => hfirst (beq_iff_eq.mp heq))] at h
        cases hpieces : rest.splitOn separator with
        | nil => exact absurd hpieces (List.splitOn_ne_nil separator rest)
        | cons head tail =>
            rw [hpieces, List.modifyHead_cons] at h
            rw [hpieces] at ih
            rcases List.mem_cons.mp h with rfl | h
            · exact List.cons_subset_cons _ (ih List.mem_cons_self)
            · exact List.subset_cons_of_subset _ (ih (List.mem_cons_of_mem _ h))

omit [LawfulBEq α] in
/-- There is one piece more than separators. -/
theorem length_splitOn (items : List α) :
    (items.splitOn separator).length = items.count separator + 1 := by
  induction items with
  | nil => rfl
  | cons first rest ih =>
      rw [List.splitOn_cons_eq_if_modifyHead, List.count_cons]
      split
      · rw [List.length_cons, ih]
      · rw [List.length_modifyHead, ih]

omit [LawfulBEq α] in
/-- What is put behind a list goes on with its last piece and leaves the others alone. -/
theorem exists_splitOn_append (separator : α) (items : List α) :
    ∃ pieces last, items.splitOn separator = pieces ++ [last] ∧
      ∀ more, (items ++ more).splitOn separator =
        pieces ++ (more.splitOn separator).modifyHead (last ++ ·) := by
  induction items with
  | nil =>
      refine ⟨[], [], rfl, fun more => ?_⟩
      have hne : more.splitOn separator ≠ [] := List.splitOn_ne_nil separator more
      obtain ⟨piece, others, hpieces⟩ := List.exists_cons_of_ne_nil hne
      simp [hpieces]
  | cons first rest ih =>
      obtain ⟨pieces, last, hrest, hmore⟩ := ih
      simp only [List.cons_append, List.splitOn_cons_eq_if_modifyHead, hrest, hmore]
      by_cases hfirst : (first == separator) = true
      · refine ⟨[] :: pieces, last, ?_, fun more => ?_⟩
        · simp [hfirst]
        · simp [hfirst]
      · cases pieces with
        | nil =>
            refine ⟨[], first :: last, ?_, fun more => ?_⟩
            · simp [hfirst]
            · simp [hfirst, List.modifyHead_modifyHead, Function.comp_def]
        | cons piece pieces =>
            refine ⟨(first :: piece) :: pieces, last, ?_, fun more => ?_⟩
            · simp [hfirst]
            · simp [hfirst]

end TextTables.Text
