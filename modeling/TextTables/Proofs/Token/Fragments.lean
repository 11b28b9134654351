import TextTables.Proofs.Token.Adjacent

/-!
# What a text is cut into

A text is cut into fragments unless a quote is left open or a tab stands inside a literal.
The fragments are what is left of the text without the blanks outside of literals, and each
of them has one of four forms.  A text has such a form exactly if it is its own only
fragment, so fragments with spaces between them are cut apart again.
-/

namespace TextTables.Fragment

open Text (isBlank)

/-! ## Forms of fragments -/

/-- The comparison signs of two characters. -/
def pairs : List String :=
  ["==", "!=", "<=", ">="]

/-- A character that begins no literal and is no blank and no mark. -/
structure IsRunChar (c : Char) : Prop where
  not_blank : isBlank c = false
  ne_quote : c ≠ quote
  not_mark : c ∉ loneMarks

/-- The forms of fragments: whole literals, comparison signs of two characters, single marks
and runs of other characters. -/
inductive IsFragment : String → Prop
  | literal {content : List Char} (h : IsContent content) : IsFragment (quoted content)
  | pair {sign : String} (h : sign ∈ pairs) : IsFragment sign
  | mark {c : Char} (h : c ∈ loneMarks) : IsFragment (String.singleton c)
  | run {cs : List Char} (hne : cs ≠ []) (h : ∀ c ∈ cs, IsRunChar c) :
      IsFragment (String.ofList cs)

theorem ofList_mem_pairs_of_isPair {c d : Char} (h : isPair c d = true) :
    String.ofList [c, d] ∈ pairs := by
  simp only [isPair, Bool.and_eq_true, Bool.or_eq_true, beq_iff_eq] at h
  obtain ⟨rfl, ((rfl | rfl) | rfl) | rfl⟩ := h
  all_goals decide

theorem IsRunChar.not_isPair {c d : Char} (h : IsRunChar d) : isPair c d = false := by
  have hne : d ≠ '=' := by
    rintro rfl
    exact h.not_mark (by decide)
  simp [isPair, hne]

theorem isRunChar_of_not {c : Char} {rest : List Char} (hblank : ¬isBlank c = true)
    (hquote : quote ∉ c :: rest) (hmark : ¬loneMarks.contains c = true) : IsRunChar c where
  not_blank := Bool.eq_false_iff.mpr hblank
  ne_quote := (List.ne_of_not_mem_cons hquote).symm
  not_mark := fun hmem => hmark (List.contains_iff_mem.mpr hmem)

theorem isFragment_of_mem_ofRun {run : List Char} (hrun : ∀ c ∈ run, IsRunChar c) :
    ∀ piece ∈ ofRun run, IsFragment (String.ofList piece) := by
  unfold ofRun
  split
  · exact List.forall_mem_nil _
  · next hne =>
      refine List.forall_mem_singleton.mpr (.run (mt List.reverse_eq_nil_iff.mp hne) ?_)
      exact fun c hc => hrun c (List.mem_reverse.mp hc)

theorem isFragment_of_mem_piecesAfter {run cs : List Char} (hrun : ∀ c ∈ run, IsRunChar c)
    (hcs : quote ∉ cs) : ∀ piece ∈ piecesAfter run cs, IsFragment (String.ofList piece) := by
  have hnone : ∀ c ∈ ([] : List Char), IsRunChar c := List.forall_mem_nil _
  fun_induction piecesAfter run cs with
  | case1 run => exact isFragment_of_mem_ofRun hrun
  | case2 run c rest hblank ih =>
      have hrest := List.not_mem_of_not_mem_cons hcs
      exact List.forall_mem_append.mpr ⟨isFragment_of_mem_ofRun hrun, ih hnone hrest⟩
  | case3 run c hblank d tail hpair ih =>
      have htail := List.not_mem_of_not_mem_cons (List.not_mem_of_not_mem_cons hcs)
      have hsign := IsFragment.pair (ofList_mem_pairs_of_isPair hpair)
      exact List.forall_mem_append.mpr
        ⟨isFragment_of_mem_ofRun hrun, List.forall_mem_cons.mpr ⟨hsign, ih hnone htail⟩⟩
  | case4 run c hblank d tail hpair hmark ih =>
      have hrest := List.not_mem_of_not_mem_cons hcs
      have hlone := IsFragment.mark (List.contains_iff_mem.mp hmark)
      exact List.forall_mem_append.mpr
        ⟨isFragment_of_mem_ofRun hrun, List.forall_mem_cons.mpr ⟨hlone, ih hnone hrest⟩⟩
  | case5 run c hblank d tail hpair hmark ih =>
      have hc := isRunChar_of_not hblank hcs hmark
      exact ih (List.forall_mem_cons.mpr ⟨hc, hrun⟩) (List.not_mem_of_not_mem_cons hcs)
  | case6 run c hblank hmark =>
      have hlone := IsFragment.mark (List.contains_iff_mem.mp hmark)
      exact List.forall_mem_append.mpr
        ⟨isFragment_of_mem_ofRun hrun, List.forall_mem_singleton.mpr hlone⟩
  | case7 run c hblank hmark =>
      have hc := isRunChar_of_not hblank hcs hmark
      exact isFragment_of_mem_ofRun (List.forall_mem_cons.mpr ⟨hc, hrun⟩)

theorem isFragment_of_mem_ofSpans {inside : Bool} {spans fragments : List (List Char)}
    (hspans : ∀ span ∈ spans, quote ∉ span) (h : ofSpans inside spans = .ok fragments) :
    ∀ fragment ∈ fragments, IsFragment (String.ofList fragment) := by
  induction spans generalizing inside fragments with
  | nil =>
      cases inside <;> cases h <;> exact List.forall_mem_nil _
  | cons span rest ih =>
      obtain ⟨hspan, hrest⟩ := List.forall_mem_cons.mp hspans
      cases inside with
      | false =>
          rw [ofSpans] at h
          obtain ⟨more, hmore, h⟩ := exists_of_bind_eq_ok h
          cases h
          exact List.forall_mem_append.mpr
            ⟨isFragment_of_mem_piecesAfter (List.forall_mem_nil _) hspan, ih hrest hmore⟩
      | true =>
          rw [ofSpans] at h
          split at h
          · cases h
          · next htab =>
              obtain ⟨more, hmore, h⟩ := exists_of_bind_eq_ok h
              cases h
              rw [List.contains_iff_mem] at htab
              exact List.forall_mem_cons.mpr ⟨.literal ⟨hspan, htab⟩, ih hrest hmore⟩

/-! ## Nothing is lost -/

/-- A text without the blanks outside of literals.  Each quote leads into a literal or out
of one. -/
def withoutBlanks (inside : Bool) : List Char → List Char
  | [] => []
  | c :: rest =>
    if c = quote then c :: withoutBlanks (!inside) rest
    else if !inside && isBlank c then withoutBlanks inside rest
    else c :: withoutBlanks inside rest

theorem withoutBlanks_of_quote_not_mem {span : List Char} (h : quote ∉ span) (inside : Bool)
    (rest : List Char) : withoutBlanks inside (span ++ rest) =
      (if inside then span else span.filter (!isBlank ·)) ++ withoutBlanks inside rest := by
  induction span with
  | nil => cases inside <;> rfl
  | cons c more ih =>
      obtain ⟨hc, hmore⟩ := List.ne_and_not_mem_of_not_mem_cons h
      rw [List.cons_append, withoutBlanks, if_neg (Ne.symm hc), ih hmore]
      cases inside with
      | true => rfl
      | false =>
          by_cases hblank : isBlank c = true
          · simp [hblank]
          · simp [hblank]

theorem flatten_ofRun (run : List Char) : (ofRun run).flatten = run.reverse := by
  unfold ofRun
  split
  · rfl
  · simp

theorem flatten_piecesAfter (run cs : List Char) :
    (piecesAfter run cs).flatten = run.reverse ++ cs.filter (!isBlank ·) := by
  fun_induction piecesAfter run cs with
  | case1 run => simp [flatten_ofRun]
  | case2 run c rest hblank ih => simp [flatten_ofRun, hblank, ih]
  | case3 run c hblank d tail hpair ih =>
      simp [flatten_ofRun, hblank, not_isBlank_of_isPair hpair, ih]
  | case4 run c hblank d tail hpair hmark ih =>
      simp only [List.flatten_append, List.flatten_cons, flatten_ofRun, ih]
      simp [hblank]
  | case5 run c hblank d tail hpair hmark ih =>
      rw [ih]
      simp [hblank]
  | case6 run c hblank hmark => simp [flatten_ofRun, hblank]
  | case7 run c hblank hmark => simp [flatten_ofRun, hblank]

/-- The quotes of a literal are those before and behind its span. -/
theorem flatten_ofSpans {inside : Bool} {spans fragments : List (List Char)}
    (hne : spans ≠ []) (hspans : ∀ span ∈ spans, quote ∉ span)
    (hparity : spans.length.bodd = !inside) (h : ofSpans inside spans = .ok fragments) :
    fragments.flatten = (if inside then [quote] else []) ++
      withoutBlanks inside ([quote].intercalate spans) := by
  induction spans generalizing inside fragments with
  | nil => exact absurd rfl hne
  | cons span rest ih =>
      obtain ⟨hspan, hrest⟩ := List.forall_mem_cons.mp hspans
      have hflatten : ∀ more, ofSpans (!inside) rest = .ok more → rest ≠ [] →
          more.flatten = (if inside then [] else [quote]) ++
            withoutBlanks (!inside) ([quote].intercalate rest) := by
        intro more hmore hrest_ne
        have hodd : rest.length.bodd = !!inside := by
          rw [List.length_cons, Nat.bodd_succ] at hparity
          cases inside <;> simpa using hparity
        rw [ih hrest_ne hrest hodd hmore]
        cases inside <;> rfl
      cases rest with
      | nil =>
          cases inside with
          | true =>
              rw [List.length_singleton, Nat.bodd_one] at hparity
              cases hparity
          | false =>
              cases h
              have hblanks := withoutBlanks_of_quote_not_mem hspan false []
              rw [List.append_nil] at hblanks
              simp [pieces, flatten_piecesAfter, hblanks, withoutBlanks]
      | cons next others =>
          have hnext : next :: others ≠ [] := List.cons_ne_nil _ _
          rw [List.intercalate_cons_cons, List.append_assoc, List.singleton_append,
            withoutBlanks_of_quote_not_mem hspan, withoutBlanks, if_pos rfl]
          cases inside with
          | false =>
              rw [ofSpans] at h
              obtain ⟨more, hmore, h⟩ := exists_of_bind_eq_ok h
              cases h
              rw [List.flatten_append, pieces, flatten_piecesAfter, hflatten more hmore hnext]
              simp
          | true =>
              rw [ofSpans] at h
              split at h
              · cases h
              · obtain ⟨more, hmore, h⟩ := exists_of_bind_eq_ok h
                cases h
                rw [List.flatten_cons, literal, hflatten more hmore hnext]
                simp

/-! ## Texts that are not cut -/

/-- A tab stands inside a literal: behind an odd number of quotes, one of them before the
text where this begins inside. -/
def TabInside (inside : Bool) (cs : List Char) : Prop :=
  ∃ before after, cs = before ++ '\t' :: after ∧ Odd (inside.toNat + before.count quote)

/-- A quote leads into a literal or out of one. -/
theorem odd_count_cons_iff (inside : Bool) (c : Char) (before : List Char) :
    Odd (inside.toNat + (c :: before).count quote) ↔
      Odd ((inside ^^ c == quote).toNat + before.count quote) := by
  rw [List.count_cons, Nat.odd_iff, Nat.odd_iff]
  by_cases hquote : c = quote
  · rw [hquote, beq_self_eq_true, if_pos rfl]
    cases inside <;> simp <;> omega
  · rw [beq_false_of_ne hquote, if_neg Bool.false_ne_true, Bool.xor_false, Nat.add_zero]

theorem tabInside_cons_iff {inside : Bool} {c : Char} {rest : List Char} :
    TabInside inside (c :: rest) ↔
      c = '\t' ∧ inside = true ∨ TabInside (inside ^^ c == quote) rest := by
  constructor
  · rintro ⟨before, after, htext, hodd⟩
    cases before with
    | nil =>
        cases htext
        refine Or.inl ⟨rfl, ?_⟩
        cases inside with
        | true => rfl
        | false => exact absurd hodd (by decide)
    | cons d before =>
        cases htext
        exact Or.inr ⟨before, after, rfl, (odd_count_cons_iff _ _ _).mp hodd⟩
  · rintro (⟨rfl, rfl⟩ | ⟨before, after, rfl, hodd⟩)
    · exact ⟨[], rest, rfl, odd_one⟩
    · exact ⟨c :: before, after, rfl, (odd_count_cons_iff _ _ _).mpr hodd⟩

theorem ofSpans_cons_eq_error_iff {inside : Bool} {span : List Char} {rest : List (List Char)}
    {fault : Fault} :
    ofSpans inside (span :: rest) = .error fault ↔
      if inside = true ∧ '\t' ∈ span then fault = .tabInLiteral
      else ofSpans (!inside) rest = .error fault := by
  have hmore : ∀ f : List (List Char) → List (List Char),
      (ofSpans (!inside) rest >>= fun more => Except.ok (f more)) = .error fault ↔
        ofSpans (!inside) rest = .error fault := by
    intro f
    cases ofSpans (!inside) rest with
    | error other => exact Iff.rfl
    | ok more => exact iff_of_false nofun nofun
  cases inside with
  | false =>
      rw [if_neg (fun h => Bool.false_ne_true h.1)]
      exact hmore _
  | true =>
      rw [ofSpans]
      by_cases htab : '\t' ∈ span
      · rw [if_pos (List.contains_iff_mem.mpr htab), if_pos ⟨rfl, htab⟩, Except.error.injEq,
          eq_comm]
      · rw [if_neg (mt List.contains_iff_mem.mp htab), if_neg (fun h => htab h.2)]
        exact hmore _

/-- Spans are refused for a tab only, and exactly if it stands inside a literal. -/
theorem ofSpans_splitOn_eq_error_iff (inside : Bool) (cs : List Char) {fault : Fault} :
    ofSpans inside (cs.splitOn quote) = .error fault ↔
      TabInside inside cs ∧ fault = .tabInLiteral := by
  induction cs generalizing inside with
  | nil =>
      have hnone : ¬TabInside inside [] := by
        rintro ⟨before, after, htext, _⟩
        simp at htext
      have hend : ofSpans (!inside) [] = .ok [] := by cases inside <;> rfl
      rw [List.splitOn_nil, ofSpans_cons_eq_error_iff, hend]
      simp [hnone]
  | cons c rest ih =>
      rw [tabInside_cons_iff]
      by_cases hquote : c = quote
      · subst hquote
        have hsplit : (quote :: rest).splitOn quote = [] :: rest.splitOn quote := by
          rw [List.splitOn_cons_eq_if_modifyHead, if_pos (beq_self_eq_true _)]
        rw [hsplit, ofSpans_cons_eq_error_iff, ih]
        simp [quote]
      · obtain ⟨piece, others, hpieces⟩ :=
          List.exists_cons_of_ne_nil (List.splitOn_ne_nil quote rest)
        have hsplit : (c :: rest).splitOn quote = (c :: piece) :: others := by
          rw [List.splitOn_cons_eq_if_modifyHead, if_neg (by simpa using hquote), hpieces]
          rfl
        have hrest := ih inside
        rw [hpieces, ofSpans_cons_eq_error_iff] at hrest
        rw [hsplit, ofSpans_cons_eq_error_iff, beq_false_of_ne hquote, Bool.xor_false]
        by_cases htab : inside = true ∧ c = '\t'
        · obtain ⟨hinside, rfl⟩ := htab
          simp [hinside]
        · have hspan : inside = true ∧ '\t' ∈ c :: piece ↔ inside = true ∧ '\t' ∈ piece := by
            rw [List.mem_cons, and_or_left, or_iff_right fun h => htab ⟨h.1, h.2.symm⟩]
          have hfirst : ¬(c = '\t' ∧ inside = true) := fun h => htab h.symm
          rw [or_iff_right hfirst, ← hrest]
          simp only [hspan]

/-! ## Texts that are cut into themselves -/

/-- A run is not cut. -/
theorem piecesAfter_of_forall_isRunChar {cs : List Char} (h : ∀ c ∈ cs, IsRunChar c)
    (run : List Char) : piecesAfter run cs = ofRun (cs.reverse ++ run) := by
  induction cs generalizing run with
  | nil => rw [piecesAfter, List.reverse_nil, List.nil_append]
  | cons c rest ih =>
      obtain ⟨hc, hrest⟩ := List.forall_mem_cons.mp h
      have hmark : ¬loneMarks.contains c = true := mt List.contains_iff_mem.mp hc.not_mark
      cases rest with
      | nil =>
          rw [piecesAfter_singleton, if_neg (Bool.eq_false_iff.mp hc.not_blank), if_neg hmark]
          rfl
      | cons d tail =>
          have hpair := (hrest d List.mem_cons_self).not_isPair (c := c)
          rw [piecesAfter_cons_cons, if_neg (Bool.eq_false_iff.mp hc.not_blank),
            if_neg (Bool.eq_false_iff.mp hpair), if_neg hmark, ih hrest]
          simp

theorem IsFragment.ofText_eq {fragment : String} (h : IsFragment fragment) :
    ofText fragment = .ok [fragment] := by
  cases h with
  | literal hcontent => exact ofText_quoted hcontent
  | pair hsign =>
      have hpairs : ∀ sign ∈ pairs, ofText sign = .ok [sign] := by decide +kernel
      exact hpairs fragment hsign
  | @mark c hmark =>
      have hmarks : loneMarks.all
          (fun c => ofText (String.singleton c) = .ok [String.singleton c]) = true := by
        decide +kernel
      simpa using List.all_eq_true.mp hmarks c hmark
  | @run cs hne hcs =>
      have hquote : quote ∉ (String.ofList cs).toList := by
        rw [String.toList_ofList]
        exact fun hmem => (hcs quote hmem).ne_quote rfl
      rw [ofText_of_quote_not_mem hquote, String.toList_ofList, pieces,
        piecesAfter_of_forall_isRunChar hcs, List.append_nil, ofRun_reverse hne]
      rfl

/-- Fragments with spaces between them are cut apart again. -/
theorem ofText_intercalate_space {fragments : List String}
    (h : ∀ fragment ∈ fragments, IsFragment fragment) :
    ofText (" ".intercalate fragments) = .ok fragments := by
  induction fragments with
  | nil => decide
  | cons first rest ih =>
      obtain ⟨hfirst, hrest⟩ := List.forall_mem_cons.mp h
      cases rest with
      | nil =>
          rw [String.intercalate_singleton]
          exact hfirst.ofText_eq
      | cons next others =>
          have hspace : IsBreak ' ' := Or.inl (by decide)
          have htext : (" " ++ " ".intercalate (next :: others)).toList =
              ' ' :: (" ".intercalate (next :: others)).toList := by simp
          rw [String.intercalate_cons_cons, String.append_assoc,
            ofText_append hspace htext hfirst.ofText_eq, ofText_space, ih hrest]
          rfl

/-! ## Cutting -/

theorem ofText_of_odd {text : String} (h : Odd (text.toList.count quote)) :
    ofText text = .error .unterminatedLiteral := by
  have heven : (text.toList.splitOn quote).length % 2 = 0 := by
    rw [Text.length_splitOn]
    exact Nat.even_iff.mp h.add_one
  rw [ofText, ofChars_of_splitOn rfl, if_pos heven]
  rfl

theorem ofText_of_even {text : String} (h : Even (text.toList.count quote)) :
    ofText text =
      (ofSpans false (text.toList.splitOn quote)).map (·.map String.ofList) := by
  have hodd : ¬(text.toList.splitOn quote).length % 2 = 0 := by
    rw [Text.length_splitOn, ← Nat.even_iff, Nat.not_even_iff_odd]
    exact h.add_one
  rw [ofText, ofChars_of_splitOn rfl, if_neg hodd]

theorem ofText_eq_error_iff {text : String} {fault : Fault} :
    ofText text = .error fault ↔
      Odd (text.toList.count quote) ∧ fault = .unterminatedLiteral ∨
        Even (text.toList.count quote) ∧ TabInside false text.toList ∧ fault = .tabInLiteral := by
  rcases Nat.even_or_odd (text.toList.count quote) with heven | hodd
  · have hspans : ofSpans false (text.toList.splitOn quote) = .error fault ↔
        TabInside false text.toList ∧ fault = .tabInLiteral :=
      ofSpans_splitOn_eq_error_iff false text.toList
    have hnot : ¬Odd (text.toList.count quote) := Nat.not_odd_iff_even.mpr heven
    rw [ofText_of_even heven, or_iff_right fun h => hnot h.1, and_iff_right heven, ← hspans]
    cases ofSpans false (text.toList.splitOn quote) with
    | error other => exact ⟨fun h => by cases h; rfl, fun h => by cases h; rfl⟩
    | ok found => exact iff_of_false nofun nofun
  · have hnot : ¬Even (text.toList.count quote) := Nat.not_even_iff_odd.mpr hodd
    rw [ofText_of_odd hodd, or_iff_left fun h => hnot h.1, and_iff_right hodd, Except.error.injEq,
      eq_comm]

theorem exists_of_ofText_eq_ok {text : String} {fragments : List String}
    (h : ofText text = .ok fragments) :
    Even (text.toList.count quote) ∧ ∃ found,
      ofSpans false (text.toList.splitOn quote) = .ok found ∧
        fragments = found.map String.ofList := by
  rcases Nat.even_or_odd (text.toList.count quote) with heven | hodd
  · rw [ofText_of_even heven] at h
    cases hfound : ofSpans false (text.toList.splitOn quote) with
    | error fault =>
        rw [hfound] at h
        cases h
    | ok found =>
        rw [hfound] at h
        cases h
        exact ⟨heven, found, rfl, rfl⟩
  · rw [ofText_of_odd hodd] at h
    cases h

theorem isFragment_of_mem_ofText {text : String} {fragments : List String}
    (h : ofText text = .ok fragments) : ∀ fragment ∈ fragments, IsFragment fragment := by
  obtain ⟨_, found, hfound, rfl⟩ := exists_of_ofText_eq_ok h
  intro fragment hfragment
  obtain ⟨cs, hcs, rfl⟩ := List.mem_map.mp hfragment
  exact isFragment_of_mem_ofSpans (fun span hspan => Text.not_mem_of_mem_splitOn hspan) hfound
    cs hcs

theorem flatMap_toList_of_ofText {text : String} {fragments : List String}
    (h : ofText text = .ok fragments) :
    fragments.flatMap String.toList = withoutBlanks false text.toList := by
  obtain ⟨heven, found, hfound, rfl⟩ := exists_of_ofText_eq_ok h
  have hparity : (text.toList.splitOn quote).length.bodd = !false := by
    obtain ⟨half, hhalf⟩ := heven
    rw [Text.length_splitOn, Nat.bodd_succ, hhalf, Nat.bodd_add, Bool.xor_self]
  have hflatten := flatten_ofSpans (List.splitOn_ne_nil quote _)
    (fun span hspan => Text.not_mem_of_mem_splitOn hspan) hparity hfound
  rw [List.intercalate_splitOn] at hflatten
  simpa [List.flatMap_map] using hflatten

/-- **A text is cut at quotes, blanks and marks, and nothing of it is lost.**  A text is
refused exactly if a quote is left open or a tab stands inside a literal.  Of any other text
the fragments are, one after another, the text without the blanks outside of literals.  Each
of them has one of the four forms, which are those of the texts that are not cut, and with
spaces between them they are cut apart again. -/
theorem ofText_cuts (text : String) :
    (∀ fault, ofText text = .error fault ↔
      Odd (text.toList.count quote) ∧ fault = .unterminatedLiteral ∨
        Even (text.toList.count quote) ∧ TabInside false text.toList ∧ fault = .tabInLiteral) ∧
    (ofText text = .ok [text] ↔ IsFragment text) ∧
    ∀ fragments, ofText text = .ok fragments →
      fragments.flatMap String.toList = withoutBlanks false text.toList ∧
      (∀ fragment ∈ fragments, IsFragment fragment) ∧
      ofText (" ".intercalate fragments) = .ok fragments := by
  refine ⟨fun fault => ofText_eq_error_iff, ⟨fun h => ?_, IsFragment.ofText_eq⟩, ?_⟩
  · exact isFragment_of_mem_ofText h text List.mem_cons_self
  · intro fragments h
    have hforms := isFragment_of_mem_ofText h
    exact ⟨flatMap_toList_of_ofText h, hforms, ofText_intercalate_space hforms⟩

/-- Signs side by side, beside a literal with a blank in it and beside runs. -/
theorem ofText_cuts_side_by_side :
    let fragments := ["a", "<=", "=", "'x y'", "=", "!=", "b", "!=", "=="]
    ofText "a<=='x y'=!= b !===" = .ok fragments ∧
      fragments.flatMap String.toList = "a<=='x y'=!=b!===".toList ∧
      (∀ fragment ∈ fragments, IsFragment fragment) ∧
      ofText "a <= = 'x y' = != b != ==" = .ok fragments := by
  intro fragments
  have hcut : ofText "a<=='x y'=!= b !===" = .ok fragments := by decide +kernel
  obtain ⟨_, _, hcuts⟩ := ofText_cuts "a<=='x y'=!= b !==="
  obtain ⟨hflat, hforms, hagain⟩ := hcuts fragments hcut
  have hblanks : withoutBlanks false "a<=='x y'=!= b !===".toList =
      "a<=='x y'=!=b!===".toList := by decide +kernel
  have hspaced : " ".intercalate fragments = "a <= = 'x y' = != b != ==" := by decide +kernel
  rw [hblanks] at hflat
  rw [hspaced] at hagain
  exact ⟨hcut, hflat, hforms, hagain⟩

end TextTables.Fragment
