/-!
# Cutting at a marker

Texts that each end with a marker are cut apart again at the marker, from left to right.
The pieces are the texts as long as no marker begins inside of a text.  It is not enough
that no text holds the marker, since one can begin in a text and end in the marker that
follows it.
-/

namespace TextTables.Text

variable {α : Type} [DecidableEq α]

/-- Cuts on after `piece`, which is what the current piece begins with, last item first.
The next `skip` items belong to the marker before it. -/
def cutAfter (marker : List α) : List α → Nat → List α → List (List α)
  | piece, _, [] => [piece.reverse]
  | piece, skip + 1, _ :: rest => cutAfter marker piece skip rest
  | piece, 0, item :: rest =>
    if marker <+: item :: rest then
      piece.reverse :: cutAfter marker [] (marker.length - 1) rest
    else
      cutAfter marker (item :: piece) 0 rest

/-- The pieces before, between and after the markers, which are found from left to right
and do not overlap. -/
def cut (marker items : List α) : List (List α) :=
  cutAfter marker [] 0 items

/-- No marker begins in the text, also if a marker follows it. -/
def Clear (marker : List α) : List α → Prop
  | [] => True
  | item :: rest => ¬marker <+: item :: (rest ++ marker) ∧ Clear marker rest

variable {marker text : List α}

theorem cutAfter_skip (piece skipped rest : List α) :
    cutAfter marker piece skipped.length (skipped ++ rest) = cutAfter marker piece 0 rest := by
  induction skipped with
  | nil => rfl
  | cons item skipped ih => exact ih

theorem cutAfter_marker (hne : marker ≠ []) (piece rest : List α) :
    cutAfter marker piece 0 (marker ++ rest) = piece.reverse :: cut marker rest := by
  obtain ⟨item, others, rfl⟩ := List.exists_cons_of_ne_nil hne
  have hbegins : item :: others <+: item :: (others ++ rest) := ⟨rest, rfl⟩
  rw [List.cons_append, cutAfter, if_pos hbegins, List.length_cons, Nat.add_sub_cancel,
    cutAfter_skip, cut]

omit [DecidableEq α] in
/-- Whether a marker begins here is decided before the end of the next one. -/
theorem isPrefix_append_iff (item : α) (rest more : List α) :
    marker <+: item :: (rest ++ (marker ++ more)) ↔ marker <+: item :: (rest ++ marker) := by
  have hlonger : item :: (rest ++ (marker ++ more)) = item :: (rest ++ marker) ++ more := by
    simp
  rw [hlonger]
  constructor
  · intro h
    refine List.prefix_of_prefix_length_le h (List.prefix_append _ more) ?_
    simp only [List.length_cons, List.length_append]
    omega
  · exact fun h => h.trans (List.prefix_append _ more)

theorem cutAfter_of_clear (hne : marker ≠ []) (h : Clear marker text) (piece more : List α) :
    cutAfter marker piece 0 (text ++ (marker ++ more)) =
      (piece.reverse ++ text) :: cut marker more := by
  induction text generalizing piece with
  | nil =>
      rw [List.nil_append, List.append_nil]
      exact cutAfter_marker hne piece more
  | cons item rest ih =>
      rw [List.cons_append, cutAfter, if_neg fun hbegins => h.1 ?_, ih h.2]
      · simp
      · exact (isPrefix_append_iff item rest more).mp hbegins

/-- The first piece is too short where a marker begins in the text. -/
theorem exists_shorter_of_not_clear (h : ¬Clear marker text) (piece more : List α) :
    ∃ first others, cutAfter marker piece 0 (text ++ (marker ++ more)) = first :: others ∧
      first.length < piece.length + text.length := by
  induction text generalizing piece with
  | nil => exact absurd trivial h
  | cons item rest ih =>
      rw [List.cons_append, cutAfter]
      by_cases hbegins : marker <+: item :: (rest ++ (marker ++ more))
      · rw [if_pos hbegins]
        refine ⟨_, _, rfl, ?_⟩
        simp
      · rw [if_neg hbegins]
        rw [isPrefix_append_iff] at hbegins
        obtain ⟨first, others, heq, hlength⟩ := ih (fun hrest => h ⟨hbegins, hrest⟩) (item :: piece)
        refine ⟨first, others, heq, ?_⟩
        simp only [List.length_cons] at hlength ⊢
        omega

/-- **Texts are cut apart again** exactly if no marker begins in any of them. -/
theorem cut_eq_iff (hne : marker ≠ []) {texts : List (List α)} :
    cut marker (texts.flatMap (· ++ marker)) = texts ++ [[]] ↔
      ∀ text ∈ texts, Clear marker text := by
  induction texts with
  | nil => exact ⟨fun _ => List.forall_mem_nil _, fun _ => rfl⟩
  | cons text more ih =>
      rw [List.flatMap_cons, List.append_assoc, List.cons_append, List.forall_mem_cons]
      constructor
      · intro hcut
        have hclear : Clear marker text := by
          refine Classical.byContradiction fun hnot => ?_
          obtain ⟨first, others, heq, hlength⟩ := exists_shorter_of_not_clear hnot []
            (more.flatMap (· ++ marker))
          rw [cut, heq] at hcut
          rw [(List.cons.inj hcut).1] at hlength
          simp at hlength
        rw [cut, cutAfter_of_clear hne hclear] at hcut
        exact ⟨hclear, ih.mp (List.cons.inj hcut).2⟩
      · rintro ⟨hclear, hmore⟩
        rw [cut, cutAfter_of_clear hne hclear, ih.mpr hmore]
        rfl

/-! ## Markers that are a line -/

omit [DecidableEq α] in
theorem clear_append_iff {first : α} {others : List α} (h : first ∉ text) (rest : List α) :
    Clear (first :: others) (text ++ rest) ↔ Clear (first :: others) rest := by
  induction text with
  | nil => exact Iff.rfl
  | cons item text ih =>
      rw [List.mem_cons, not_or] at h
      rw [← ih h.2]
      refine ⟨fun hclear => hclear.2, fun hclear => ⟨fun hbegins => ?_, hclear⟩⟩
      exact h.1 (List.cons_prefix_cons.mp hbegins).1

variable {separator sign : α}

omit [DecidableEq α] in
theorem isPrefix_line_iff (hsign : sign ≠ separator) {line : List α} (hline : separator ∉ line)
    (rest : List α) : [sign, separator] <+: line ++ separator :: rest ↔ line = [sign] := by
  constructor
  · intro h
    match line with
    | [] => exact absurd (List.cons_prefix_cons.mp h).1 hsign
    | [item] => rw [(List.cons_prefix_cons.mp h).1]
    | item :: other :: more =>
        have hother := (List.cons_prefix_cons.mp (List.cons_prefix_cons.mp h).2).1
        rw [hother] at hline
        simp at hline
  · rintro rfl
    exact List.prefix_append [sign, separator] rest

omit [DecidableEq α] in
/-- Between lines, a marker that is a line itself begins only where that line stands. -/
theorem clear_lines_iff (hsign : sign ≠ separator) {lines : List (List α)}
    (hlines : ∀ line ∈ lines, separator ∉ line) :
    Clear [separator, sign, separator] (lines.flatMap (separator :: ·)) ↔ [sign] ∉ lines := by
  induction lines with
  | nil => exact iff_of_true trivial List.not_mem_nil
  | cons line more ih =>
      obtain ⟨hline, hmore⟩ := List.forall_mem_cons.mp hlines
      have hnext : ∃ rest, more.flatMap (separator :: ·) ++ [separator, sign, separator] =
          separator :: rest := by
        cases more with
        | nil => exact ⟨_, rfl⟩
        | cons line more => exact ⟨_, rfl⟩
      obtain ⟨rest, hrest⟩ := hnext
      rw [List.flatMap_cons, List.cons_append, Clear, clear_append_iff hline, ih hmore,
        List.append_assoc, hrest, List.cons_prefix_cons, isPrefix_line_iff hsign hline,
        List.mem_cons, not_or]
      simp [eq_comm]

end TextTables.Text
