import TextTables.Proofs.Text.Lower

/-!
# The lower case of a piece of a text

Taking the lower case of a text and cutting a piece out of it can be exchanged for all
characters but the capital sigma, whose lower case depends on whether a word ends there.  A
letter with a case that the piece leaves behind, on either side, can start or continue a word,
and no other character around the piece can do more than such a letter does.
-/

namespace TextTables.Text

/-- The lower case of characters that stand between `before`, which is given nearest first,
and `after`. -/
def lowerBetween (before after : List Char) : List Char → List Char
  | [] => []
  | c :: rest =>
    if c == 'Σ' then
      lowerSigma before (rest ++ after) :: lowerBetween (c :: before) after rest
    else
      lowerChar c ++ lowerBetween (c :: before) after rest

/-- The lower case of a text is put together from the lower case of two parts of it, of which
the first one looks at the second. -/
theorem lowerAfter_append (before cs after : List Char) :
    lowerAfter before (cs ++ after) =
      lowerBetween before after cs ++ lowerAfter (cs.reverse ++ before) after := by
  induction cs generalizing before with
  | nil => rfl
  | cons c rest ih =>
      rw [List.cons_append, lowerAfter, lowerBetween, ih, List.reverse_cons, List.append_assoc]
      split
      · rfl
      · rw [List.append_assoc]
        rfl

/-! ## What ends a word -/

/-- Whether characters tell if a letter with a case comes next, whatever follows them. -/
def tellsCased (cs : List Char) : Bool :=
  cs.any fun c => !inRanges caseIgnorableRanges c

theorem meetsCased_append_of_tellsCased {cs : List Char} (h : tellsCased cs = true)
    (more : List Char) : meetsCased (cs ++ more) = meetsCased cs := by
  obtain ⟨c, hc, hcounts⟩ := List.any_eq_true.mp h
  have hne : cs.dropWhile (inRanges caseIgnorableRanges) ≠ [] := by
    rw [Ne, List.dropWhile_eq_nil_iff]
    intro hall
    rw [hall c hc] at hcounts
    cases hcounts
  obtain ⟨d, rest, hdrop⟩ := List.exists_cons_of_ne_nil hne
  rw [meetsCased, List.dropWhile_append, meetsCased, hdrop]
  rfl

theorem meetsCased_append_of_not_tellsCased {cs : List Char} (h : tellsCased cs = false)
    (more : List Char) : meetsCased (cs ++ more) = meetsCased more := by
  have hdrop : cs.dropWhile (inRanges caseIgnorableRanges) = [] := by
    rw [List.dropWhile_eq_nil_iff]
    intro c hc
    simpa using List.any_eq_false.mp h c hc
  rw [meetsCased, List.dropWhile_append, hdrop, meetsCased]
  rfl

theorem meetsCased_of_not_tellsCased {cs : List Char} (h : tellsCased cs = false) :
    meetsCased cs = false := by
  have hnil := meetsCased_append_of_not_tellsCased h []
  rwa [List.append_nil] at hnil

/-- A letter with a case, behind what does not tell, is the one that comes next. -/
theorem meetsCased_append_letter (cs : List Char) :
    meetsCased (cs ++ ['A']) = (meetsCased cs || !tellsCased cs) := by
  cases htells : tellsCased cs with
  | true => rw [meetsCased_append_of_tellsCased htells, Bool.not_true, Bool.or_false]
  | false =>
      rw [meetsCased_append_of_not_tellsCased htells, Bool.not_false, Bool.or_true]
      decide +kernel

theorem lowerSigma_eq_iff {before after left right : List Char} :
    lowerSigma before after = lowerSigma left right ↔
      (meetsCased before && !meetsCased after) = (meetsCased left && !meetsCased right) := by
  unfold lowerSigma
  generalize (meetsCased before && !meetsCased after) = ends
  generalize (meetsCased left && !meetsCased right) = other
  revert ends other
  decide

theorem lowerSigma_eq_or (before after : List Char) :
    lowerSigma before after = 'ς' ∨ lowerSigma before after = 'σ' := by
  unfold lowerSigma
  split
  · exact Or.inl rfl
  · exact Or.inr rfl

/-- There are two lower cases, so two that are not a third one are the same. -/
theorem lowerSigma_eq_of_ne {before after left right : List Char} {x : Char}
    (hx : x = 'ς' ∨ x = 'σ') (h : lowerSigma before after ≠ x)
    (hother : lowerSigma left right ≠ x) :
    lowerSigma before after = lowerSigma left right := by
  rcases hx with rfl | rfl
  · rw [(lowerSigma_eq_or _ _).resolve_left h, (lowerSigma_eq_or _ _).resolve_left hother]
  · rw [(lowerSigma_eq_or _ _).resolve_right h, (lowerSigma_eq_or _ _).resolve_right hother]

theorem lowerSigma_eq_final_iff {before after : List Char} :
    lowerSigma before after = 'ς' ↔ (meetsCased before && !meetsCased after) = true := by
  unfold lowerSigma
  split
  · next h => exact iff_of_true rfl h
  · next h => exact iff_of_false (by decide) h

/-- A letter that follows can only keep a word from ending. -/
theorem lowerSigma_of_letter_after {before after : List Char}
    (h : lowerSigma before (after ++ ['A']) = 'ς') : lowerSigma before after = 'ς' := by
  rw [lowerSigma_eq_final_iff, meetsCased_append_letter] at h
  rw [lowerSigma_eq_final_iff]
  cases hafter : meetsCased after with
  | false => simpa using (Bool.and_eq_true_iff.mp h).1
  | true => simp [hafter] at h

/-- A letter that goes before can only make a word end. -/
theorem lowerSigma_of_letter_before {before after : List Char}
    (h : lowerSigma (before ++ ['A']) after = 'σ') : lowerSigma before after = 'σ' := by
  refine (lowerSigma_eq_or before after).resolve_left fun hfinal => ?_
  have hends := lowerSigma_eq_final_iff.mp hfinal
  obtain ⟨hbefore, hafter⟩ := Bool.and_eq_true_iff.mp hends
  have hletter : lowerSigma (before ++ ['A']) after = 'ς' := by
    rw [lowerSigma_eq_final_iff, meetsCased_append_letter, hbefore, hafter]
    rfl
  rw [hletter] at h
  exact absurd h (by decide)

/-- What a letter on neither side changes is the same between any characters. -/
theorem lowerSigma_append_of_letters {before after : List Char}
    (hafter : lowerSigma before (after ++ ['A']) = lowerSigma before after)
    (hbefore : lowerSigma (before ++ ['A']) after = lowerSigma before after)
    (left right : List Char) :
    lowerSigma (before ++ left) (after ++ right) = lowerSigma before after := by
  rw [lowerSigma_eq_iff, meetsCased_append_letter] at hafter hbefore
  rw [lowerSigma_eq_iff]
  cases htells : tellsCased before with
  | true =>
      rw [meetsCased_append_of_tellsCased htells]
      cases htells' : tellsCased after with
      | true => rw [meetsCased_append_of_tellsCased htells']
      | false =>
          -- Nothing behind tells, so a word would end here unless none has begun.
          rw [htells', meetsCased_of_not_tellsCased htells'] at hafter
          have hnone : meetsCased before = false := by simpa using hafter.symm
          rw [hnone]
          rfl
  | false =>
      rw [htells, meetsCased_of_not_tellsCased htells] at hbefore
      have hcased : meetsCased after = true := by simpa using hbefore
      cases htells' : tellsCased after with
      | true =>
          rw [meetsCased_append_of_tellsCased htells', hcased, Bool.not_true, Bool.and_false,
            Bool.and_false]
      | false =>
          rw [meetsCased_of_not_tellsCased htells'] at hcased
          cases hcased

/-! ## Pieces -/

/-- The lower case of a piece in its place is its own lower case, at each of its capital
sigmas. -/
def SigmasKept (before piece after : List Char) : Prop :=
  ∀ left right, piece = left ++ 'Σ' :: right →
    lowerSigma (left.reverse ++ before) (right ++ after) = lowerSigma left.reverse right

theorem forall_split_cons_iff {P : List Char → List Char → Prop} {c d : Char}
    {rest : List Char} :
    (∀ left right, c :: rest = left ++ d :: right → P left right) ↔
      (c = d → P [] rest) ∧ ∀ left right, rest = left ++ d :: right → P (c :: left) right := by
  constructor
  · intro h
    refine ⟨?_, ?_⟩
    · rintro rfl
      exact h [] rest rfl
    · rintro left right rfl
      exact h (c :: left) right rfl
  · rintro ⟨hfirst, hmore⟩ left right heq
    cases left with
    | nil =>
        cases heq
        exact hfirst rfl
    | cons b left =>
        cases heq
        exact hmore left right rfl

/-- The lower case behind `done` is the same in a place exactly if that of every sigma is. -/
theorem lowerBetween_eq_iff (done around after cs : List Char) :
    lowerBetween (done ++ around) after cs = lowerAfter done cs ↔
      ∀ left right, cs = left ++ 'Σ' :: right →
        lowerSigma (left.reverse ++ (done ++ around)) (right ++ after) =
          lowerSigma (left.reverse ++ done) right := by
  induction cs generalizing done with
  | nil => simp [lowerBetween, lowerAfter]
  | cons c rest ih =>
      have hrest := ih (c :: done)
      rw [List.cons_append] at hrest
      rw [forall_split_cons_iff, lowerBetween, lowerAfter]
      simp only [List.reverse_nil, List.nil_append, List.reverse_cons, List.append_assoc,
        List.singleton_append]
      by_cases hc : c = 'Σ'
      · subst hc
        simp only [beq_self_eq_true, if_true, List.cons.injEq, true_imp_iff]
        exact and_congr_right fun _ => hrest
      · simp only [beq_iff_eq, hc, if_false, List.append_cancel_left_eq, false_imp_iff,
          true_and]
        exact hrest

theorem lowerBetween_eq_lowerAfter_iff (before piece after : List Char) :
    lowerBetween before after piece = lowerAfter [] piece ↔ SigmasKept before piece after := by
  have h := lowerBetween_eq_iff [] before after piece
  simp only [List.nil_append, List.append_nil] at h
  exact h

/-- Where no sigma becomes `x` that is not `x` in the piece alone, the place has no more of
them, and as many of them only if it changes nothing. -/
theorem count_lowerBetween_le {x : Char} (hx : x = 'ς' ∨ x = 'σ') (done around after : List Char)
    {cs : List Char} (h : ∀ left right, cs = left ++ 'Σ' :: right →
      lowerSigma (left.reverse ++ (done ++ around)) (right ++ after) = x →
        lowerSigma (left.reverse ++ done) right = x) :
    (lowerBetween (done ++ around) after cs).count x ≤ (lowerAfter done cs).count x ∧
      ((lowerAfter done cs).count x ≤ (lowerBetween (done ++ around) after cs).count x →
        lowerBetween (done ++ around) after cs = lowerAfter done cs) := by
  induction cs generalizing done with
  | nil => exact ⟨le_rfl, fun _ => rfl⟩
  | cons c rest ih =>
      rw [forall_split_cons_iff] at h
      simp only [List.reverse_nil, List.nil_append, List.reverse_cons, List.append_assoc,
        List.singleton_append] at h
      obtain ⟨hle, heq⟩ := ih (c :: done) h.2
      rw [List.cons_append] at hle heq
      rw [lowerBetween, lowerAfter]
      by_cases hc : c = 'Σ'
      · subst hc
        have hsigma := h.1 rfl
        simp only [beq_self_eq_true, if_true]
        by_cases hplace : lowerSigma (done ++ around) (rest ++ after) = x
        · rw [hplace, hsigma hplace, List.count_cons_self, List.count_cons_self]
          exact ⟨Nat.succ_le_succ hle, fun hge =>
            congrArg (x :: ·) (heq (Nat.le_of_succ_le_succ hge))⟩
        · rw [List.count_cons_of_ne hplace]
          by_cases halone : lowerSigma done rest = x
          · rw [halone, List.count_cons_self]
            have hlt := Nat.lt_succ_of_le hle
            exact ⟨Nat.le_of_lt hlt, fun hge => absurd hge (Nat.not_le_of_lt hlt)⟩
          · have hsame := lowerSigma_eq_of_ne hx hplace halone
            rw [List.count_cons_of_ne halone, hsame]
            exact ⟨hle, fun hge => congrArg (_ :: ·) (heq hge)⟩
      · simp only [beq_iff_eq, hc, if_false, List.count_append, List.append_cancel_left_eq]
        exact ⟨Nat.add_le_add_left hle _, fun hge => heq (Nat.le_of_add_le_add_left hge)⟩

/-- A piece whose own lower case is part of that of the text with a letter behind it keeps
its sigmas there. -/
theorem sigmasKept_of_isPart_letter_after {piece : List Char}
    (h : lowerAfter [] piece <:+: lowerAfter [] (piece ++ ['A'])) :
    SigmasKept [] piece ['A'] := by
  have hletter : lowerAfter (piece.reverse ++ []) ['A'] = ['a'] := by
    rw [List.append_nil]
    rfl
  have hcount := h.sublist.count_le 'ς'
  rw [lowerAfter_append, hletter, List.count_append, List.count_cons_of_ne (by decide),
    List.count_nil, Nat.add_zero] at hcount
  rw [← lowerBetween_eq_lowerAfter_iff]
  refine (count_lowerBetween_le (Or.inl rfl) [] [] ['A'] ?_).2 hcount
  intro left right _ hfinal
  exact lowerSigma_of_letter_after hfinal

/-- The same with a letter before it. -/
theorem sigmasKept_of_isPart_letter_before {piece : List Char}
    (h : lowerAfter [] piece <:+: lowerAfter [] ('A' :: piece)) :
    SigmasKept ['A'] piece [] := by
  have hcount := h.sublist.count_le 'σ'
  have hpiece : lowerAfter [] ('A' :: piece) = 'a' :: lowerBetween ['A'] [] piece := by
    have hsplit := lowerAfter_append ['A'] piece []
    rw [List.append_nil, lowerAfter, List.append_nil] at hsplit
    rw [lowerAfter, hsplit]
    rfl
  rw [hpiece, List.count_cons_of_ne (by decide)] at hcount
  rw [← lowerBetween_eq_lowerAfter_iff]
  refine (count_lowerBetween_le (Or.inr rfl) [] ['A'] [] ?_).2 hcount
  intro left right _ hinside
  rw [List.append_nil, List.nil_append] at hinside
  rw [List.append_nil]
  exact lowerSigma_of_letter_before hinside

/-- Letters on both sides are the worst that can stand around a piece. -/
theorem sigmasKept_of_letters {piece : List Char} (hafter : SigmasKept [] piece ['A'])
    (hbefore : SigmasKept ['A'] piece []) (before after : List Char) :
    SigmasKept before piece after := by
  intro left right heq
  have hend := hafter left right heq
  have hstart := hbefore left right heq
  rw [List.append_nil] at hend hstart
  exact lowerSigma_append_of_letters hend hstart before after

/-- Where the sigmas are kept, the lower case of the piece is part of that of the text. -/
theorem SigmasKept.isPart {before piece after : List Char}
    (h : SigmasKept before.reverse piece after) :
    lowerAfter [] piece <:+: lowerAfter [] (before ++ piece ++ after) := by
  have hplace := (lowerBetween_eq_lowerAfter_iff before.reverse piece after).mpr h
  rw [List.append_assoc, lowerAfter_append, List.append_nil, lowerAfter_append, hplace,
    ← List.append_assoc]
  exact ⟨_, _, rfl⟩

end TextTables.Text
