import TextTables.Proofs.Attempt
import TextTables.Proofs.Fault
import TextTables.Proofs.Table.Encoding
import TextTables.Proofs.Text.Split
import TextTables.Statement.Scan

/-!
# Tokens that come from a text

Blank characters separate the unquoted parts of a statement and a tab between
quotes is refused, so no token that is cut from a text holds a tab.  Its category
is the one that its own value tells.
-/

namespace TextTables

namespace Fragment

open Text (isBlank)

theorem forall_mem_of_mem_ofRun {P : Char → Prop} {run piece : List Char}
    (hrun : ∀ c ∈ run, P c) (hpiece : piece ∈ ofRun run) : ∀ c ∈ piece, P c := by
  unfold ofRun at hpiece
  split at hpiece
  · cases hpiece
  · rw [List.mem_singleton] at hpiece
    intro c hc
    rw [hpiece] at hc
    exact hrun c (List.mem_reverse.mp hc)

theorem not_isBlank_of_isPair {c d : Char} (h : isPair c d = true) : isBlank d = false := by
  simp only [isPair, Bool.and_eq_true, beq_iff_eq] at h
  rw [h.1]
  decide

/-- Unquoted text is cut at every blank character, and its pieces hold all the others. -/
theorem forall_mem_of_mem_piecesAfter {P : Char → Prop} {run cs piece : List Char}
    (hrun : ∀ c ∈ run, P c) (hcs : ∀ c ∈ cs, isBlank c = false → P c)
    (hpiece : piece ∈ piecesAfter run cs) : ∀ c ∈ piece, P c := by
  have hnone : ∀ c ∈ ([] : List Char), P c := fun c hc => by cases hc
  fun_induction piecesAfter run cs with
  | case1 run => exact forall_mem_of_mem_ofRun hrun hpiece
  | case2 run c rest hblank ih =>
      rcases List.mem_append.mp hpiece with hpiece | hpiece
      · exact forall_mem_of_mem_ofRun hrun hpiece
      · exact ih hnone (List.forall_mem_cons.mp hcs).2 hpiece
  | case3 run c hblank d tail hpair ih =>
      obtain ⟨hc, hrest⟩ := List.forall_mem_cons.mp hcs
      obtain ⟨hd, htail⟩ := List.forall_mem_cons.mp hrest
      rcases List.mem_append.mp hpiece with hpiece | hpiece
      · exact forall_mem_of_mem_ofRun hrun hpiece
      · rcases List.mem_cons.mp hpiece with rfl | hpiece
        · exact List.forall_mem_cons.mpr ⟨hc (Bool.eq_false_iff.mpr hblank),
            List.forall_mem_cons.mpr ⟨hd (not_isBlank_of_isPair hpair), hnone⟩⟩
        · exact ih hnone htail hpiece
  | case4 run c hblank d tail hpair hmark ih =>
      obtain ⟨hc, hrest⟩ := List.forall_mem_cons.mp hcs
      rcases List.mem_append.mp hpiece with hpiece | hpiece
      · exact forall_mem_of_mem_ofRun hrun hpiece
      · rcases List.mem_cons.mp hpiece with rfl | hpiece
        · exact List.forall_mem_cons.mpr ⟨hc (Bool.eq_false_iff.mpr hblank), hnone⟩
        · exact ih hnone hrest hpiece
  | case5 run c hblank d tail hpair hmark ih =>
      obtain ⟨hc, hrest⟩ := List.forall_mem_cons.mp hcs
      refine ih (List.forall_mem_cons.mpr ⟨?_, hrun⟩) hrest hpiece
      exact hc (Bool.eq_false_iff.mpr hblank)
  | case6 run c hblank hmark =>
      have hc := (List.forall_mem_cons.mp hcs).1 (Bool.eq_false_iff.mpr hblank)
      rcases List.mem_append.mp hpiece with hpiece | hpiece
      · exact forall_mem_of_mem_ofRun hrun hpiece
      · rw [List.mem_singleton.mp hpiece]
        exact List.forall_mem_cons.mpr ⟨hc, hnone⟩
  | case7 run c hblank hmark =>
      have hc := (List.forall_mem_cons.mp hcs).1 (Bool.eq_false_iff.mpr hblank)
      exact forall_mem_of_mem_ofRun (List.forall_mem_cons.mpr ⟨hc, hrun⟩) hpiece

/-- Fragments hold the characters of the spans and quotes.  No tab is among them: outside
of literals it is blank, and inside it is refused. -/
theorem forall_mem_of_ofSpans {P : Char → Prop} (hquote : P quote) {inside : Bool}
    {spans fragments : List (List Char)} (hspans : ∀ span ∈ spans, ∀ c ∈ span, c ≠ '\t' → P c)
    (h : ofSpans inside spans = .ok fragments) :
    ∀ fragment ∈ fragments, ∀ c ∈ fragment, P c := by
  induction spans generalizing inside fragments with
  | nil =>
      cases inside <;> cases h <;> exact List.forall_mem_nil _
  | cons span rest ih =>
      obtain ⟨hspan, hrest⟩ := List.forall_mem_cons.mp hspans
      cases inside with
      | false =>
          rw [ofSpans] at h
          obtain ⟨more, hmore, h⟩ := exists_of_bind_eq_ok h
          cases h
          intro fragment hfragment
          rcases List.mem_append.mp hfragment with hpiece | hfragment
          · refine forall_mem_of_mem_piecesAfter (List.forall_mem_nil _) ?_ hpiece
            intro c hc hblank
            refine hspan c hc ?_
            rintro rfl
            cases hblank
          · exact ih hrest hmore fragment hfragment
      | true =>
          rw [ofSpans] at h
          split at h
          · cases h
          · next htab =>
              obtain ⟨more, hmore, h⟩ := exists_of_bind_eq_ok h
              cases h
              rw [List.contains_iff_mem] at htab
              intro fragment hfragment
              rcases List.mem_cons.mp hfragment with rfl | hfragment
              · intro c hc
                simp only [literal, List.cons_append, List.mem_cons, List.mem_append,
                  List.not_mem_nil, or_false] at hc
                rcases hc with rfl | hc | rfl
                · exact hquote
                · refine hspan c hc ?_
                  rintro rfl
                  exact htab hc
                · exact hquote
              · exact ih hrest hmore fragment hfragment

/-- A text is not cut because of a quote or of a tab, which the message does not repeat. -/
theorem avoids_of_ofText {c : Char} {text : String} {fault : Fault}
    (h : ofText text = .error fault) : fault.Avoids c := by
  have hspans : ∀ {inside : Bool} {spans : List (List Char)},
      Satisfies (Fault.Avoids c) (fun _ => True) (ofSpans inside spans) := by
    intro inside spans
    induction spans generalizing inside with
    | nil =>
        rw [ofSpans]
        exact .ok trivial
    | cons span rest ih =>
        cases inside with
        | false =>
            rw [ofSpans]
            exact ih.bind fun _ _ => .ok trivial
        | true =>
            rw [ofSpans]
            split
            · exact .error (Fault.avoids_of_words_eq_nil nofun rfl)
            · exact ih.bind fun _ _ => .ok trivial
  refine Satisfies.of_eq_error (Q := fun _ => True) ?_ h
  refine Satisfies.map (Q := fun _ => True) ?_ fun _ _ => trivial
  unfold ofChars
  dsimp only
  split
  · exact .error (Fault.avoids_of_words_eq_nil nofun rfl)
  · exact hspans

theorem forall_mem_of_ofText {P : Char → Prop} (hquote : P quote) {text : String}
    (htext : ∀ c ∈ text.toList, c ≠ '\t' → P c) {fragments : List String}
    (h : ofText text = .ok fragments) : ∀ fragment ∈ fragments, ∀ c ∈ fragment.toList, P c := by
  unfold ofText ofChars at h
  intro fragment hfragment
  dsimp only at h
  split at h
  · cases h
  · cases hspans : ofSpans false (text.toList.splitOn quote) with
    | error fault =>
        rw [hspans] at h
        cases h
    | ok found =>
        rw [hspans] at h
        cases h
        obtain ⟨chars, hchars, rfl⟩ := List.mem_map.mp hfragment
        rw [String.toList_ofList]
        refine forall_mem_of_ofSpans hquote ?_ hspans chars hchars
        exact fun span hspan c hc => htext c (Text.subset_of_mem_splitOn hspan hc)

theorem tabFree_of_ofText {text : String} {fragments : List String}
    (h : ofText text = .ok fragments) : ∀ fragment ∈ fragments, Row.TabFree fragment := by
  intro fragment hfragment htab
  have hne := forall_mem_of_ofText (P := (· ≠ '\t')) (by decide) (fun _ _ hne => hne) h
  exact hne fragment hfragment '\t' htab rfl

theorem freeOf_of_ofText {c : Char} (hc : Text.Foreign c) {text : String}
    (htext : Text.FreeOf c text) {fragments : List String} (h : ofText text = .ok fragments) :
    ∀ fragment ∈ fragments, Text.FreeOf c fragment := by
  intro fragment hfragment hmem
  have hne := forall_mem_of_ofText (P := (· ≠ c)) hc.not_quote.symm
    (fun d hd _ heq => htext (heq ▸ hd)) h
  exact hne fragment hfragment c hmem rfl

end Fragment

namespace Token

/-- What every token that is cut from a text is like. -/
structure Lexed (token : Token) : Prop where
  classify_eq : classify token.value = .ok token.category
  tabFree : Row.TabFree token.value

/-- A token that is cut from a text and does not hold the character. -/
structure LexedFree (c : Char) (token : Token) : Prop where
  lexed : token.Lexed
  freeOf : Text.FreeOf c token.value

theorem Lexed.lexedFree {token : Token} (h : token.Lexed) : token.LexedFree '\t' :=
  ⟨h, h.tabFree⟩

theorem classify_eq_of_ofFragment {fragment : String} {token : Token}
    (h : ofFragment fragment = .ok token) :
    classify fragment = .ok token.category ∧ token.value = fragment := by
  unfold ofFragment at h
  cases hcategory : classify fragment with
  | error fault =>
      rw [hcategory] at h
      cases h
  | ok category =>
      rw [hcategory] at h
      cases h
      exact ⟨rfl, rfl⟩

theorem lexed_of_ofText {text : String} {tokens : List Token}
    (h : ofText text = .ok tokens) : ∀ token ∈ tokens, Lexed token := by
  intro token htoken
  obtain ⟨fragments, hfragments, h⟩ := exists_of_bind_eq_ok h
  obtain ⟨fragment, hfragment, hof⟩ := exists_mem_of_mem_mapM h htoken
  obtain ⟨hcategory, rfl⟩ := classify_eq_of_ofFragment hof
  exact ⟨hcategory, Fragment.tabFree_of_ofText hfragments _ hfragment⟩

/-- The only cause that repeats a fragment is that the fragment has no category. -/
theorem satisfies_classify {c : Char} {fragment : String} (h : Text.FreeOf c fragment) :
    Satisfies (Fault.Avoids c) (fun _ => True) (classify fragment) := by
  unfold classify
  repeat' split
  all_goals first
    | exact .ok trivial
    | exact .error (Fault.avoids_of_words_eq_singleton nofun rfl h)

/-- A text without a foreign character is cut into tokens without it, or refused for a
cause without it. -/
theorem satisfies_ofText {c : Char} (hc : Text.Foreign c) {text : String}
    (htext : Text.FreeOf c text) :
    Satisfies (Fault.Avoids c) (fun tokens => ∀ token ∈ tokens, LexedFree c token)
      (ofText text) := by
  unfold ofText
  cases hfragments : Fragment.ofText text with
  | error fault => exact .error (Fragment.avoids_of_ofText hfragments)
  | ok fragments =>
      refine Satisfies.mapM fun fragment hfragment => ?_
      have hfree := Fragment.freeOf_of_ofText hc htext hfragments fragment hfragment
      have htab := Fragment.tabFree_of_ofText hfragments fragment hfragment
      unfold ofFragment
      cases hcategory : classify fragment with
      | error fault => exact .error ((satisfies_classify hfree).of_eq_error hcategory)
      | ok category => exact .ok ⟨⟨hcategory, htab⟩, hfree⟩

end Token

end TextTables
