import TextTables.Proofs.Statement.Plain
import TextTables.Proofs.Token.Literals

/-!
# Texts side by side

Outside of literals a blank, or a mark that begins no comparison sign, ends whatever stands
before it.  So where all quotes of a text are closed, a text that begins with such a
character can be put behind it: the tokens of both are those of the one, and then those of
the other.
-/

namespace TextTables

namespace Fragment

open Text (isBlank)

/-- A character that ends what stands before it, and does not change it. -/
def IsBreak (c : Char) : Prop :=
  isBlank c = true ∨ (c ∈ loneMarks ∧ c ≠ '=')

variable {c : Char}

theorem IsBreak.ne_quote (h : IsBreak c) : c ≠ quote := by
  rintro rfl
  rcases h with h | h
  · exact absurd h (by decide)
  · exact absurd h.1 (by decide)

/-- No comparison sign ends with a break. -/
theorem IsBreak.isPair_eq_false (h : IsBreak c) (d : Char) : isPair d c = false := by
  have hne : c ≠ '=' := by
    rintro rfl
    rcases h with h | h
    · exact absurd h (by decide)
    · exact h.2 rfl
  simp [isPair, hne]

/-! ## Unquoted text -/

theorem piecesAfter_cons_cons (run : List Char) (c d : Char) (tail : List Char) :
    piecesAfter run (c :: d :: tail) =
      if isBlank c then ofRun run ++ piecesAfter [] (d :: tail)
      else if isPair c d then ofRun run ++ [c, d] :: piecesAfter [] tail
      else if loneMarks.contains c then ofRun run ++ [c] :: piecesAfter [] (d :: tail)
      else piecesAfter (c :: run) (d :: tail) := by
  rw [piecesAfter]

theorem piecesAfter_singleton (run : List Char) (c : Char) :
    piecesAfter run [c] =
      if isBlank c then ofRun run
      else if loneMarks.contains c then ofRun run ++ [[c]]
      else ofRun (c :: run) := by
  rw [piecesAfter, piecesAfter, ofRun, List.append_nil]

theorem IsBreak.piecesAfter_cons (h : IsBreak c) (run rest : List Char) :
    piecesAfter run (c :: rest) = ofRun run ++ pieces (c :: rest) := by
  rcases h with hblank | ⟨hlone, _⟩
  · rw [pieces, piecesAfter_blank hblank, piecesAfter_blank hblank]
    rfl
  · have hcontains : loneMarks.contains c = true := List.contains_iff_mem.mpr hlone
    have hblank : isBlank c = false := by
      have hmarks : loneMarks.all (!isBlank ·) = true := by decide
      simpa using List.all_eq_true.mp hmarks c hlone
    cases rest with
    | nil =>
        rw [pieces, piecesAfter_singleton, piecesAfter_singleton, hblank, hcontains]
        rfl
    | cons d tail =>
        rw [pieces, piecesAfter_cons_cons, piecesAfter_cons_cons, hblank, hcontains]
        by_cases hpair : isPair c d = true
        · rw [hpair]
          rfl
        · rw [Bool.eq_false_iff.mpr hpair]
          rfl

theorem IsBreak.piecesAfter_append (h : IsBreak c) (run before rest : List Char) :
    piecesAfter run (before ++ c :: rest) = piecesAfter run before ++ pieces (c :: rest) := by
  fun_induction piecesAfter run before with
  | case1 run => exact h.piecesAfter_cons run rest
  | case2 run b more hblank ih =>
      rw [List.cons_append, piecesAfter_blank hblank, ih, List.append_assoc]
  | case3 run b hblank d tail hpair ih =>
      rw [List.cons_append, List.cons_append, piecesAfter_cons_cons, if_neg hblank,
        if_pos hpair, ih]
      simp
  | case4 run b hblank d tail hpair hlone ih =>
      rw [List.cons_append] at ih
      rw [List.cons_append, List.cons_append, piecesAfter_cons_cons, if_neg hblank,
        if_neg hpair, if_pos hlone, ih]
      simp
  | case5 run b hblank d tail hpair hlone ih =>
      rw [List.cons_append] at ih
      rw [List.cons_append, List.cons_append, piecesAfter_cons_cons, if_neg hblank,
        if_neg hpair, if_neg hlone, ih]
  | case6 run b hblank hlone =>
      have hpair : ¬isPair b c = true := Bool.eq_false_iff.mp (h.isPair_eq_false b)
      rw [List.cons_append, List.nil_append, piecesAfter_cons_cons, if_neg hblank,
        if_neg hpair, if_pos hlone]
      simp [pieces]
  | case7 run b hblank hlone =>
      have hpair : ¬isPair b c = true := Bool.eq_false_iff.mp (h.isPair_eq_false b)
      rw [List.cons_append, List.nil_append, piecesAfter_cons_cons, if_neg hblank,
        if_neg hpair, if_neg hlone]
      exact h.piecesAfter_cons (b :: run) rest

theorem IsBreak.pieces_append (h : IsBreak c) (before rest : List Char) :
    pieces (before ++ c :: rest) = pieces before ++ pieces (c :: rest) :=
  h.piecesAfter_append [] before rest

/-! ## Spans -/

/-- Spans after others are outside or inside of literals by the number of the others. -/
theorem ofSpans_append (inside : Bool) (spans more : List (List Char)) :
    ofSpans inside (spans ++ more) = (do
      let before ← ofSpans inside spans
      (ofSpans (inside ^^ spans.length.bodd) more).map (before ++ ·)) := by
  induction spans generalizing inside with
  | nil =>
      rw [List.nil_append, List.length_nil, Nat.bodd_zero, Bool.xor_false, ofSpans, ok_bind]
      cases ofSpans inside more with
      | error fault => rfl
      | ok after => rfl
  | cons span rest ih =>
      have hrest := ih (!inside)
      have hparity : (!inside ^^ rest.length.bodd) = (inside ^^ (span :: rest).length.bodd) := by
        simp
      rw [hparity] at hrest
      cases inside with
      | false =>
          rw [List.cons_append, ofSpans, ofSpans, ← Bool.not_false, hrest]
          cases ofSpans (!false) rest with
          | error fault => rfl
          | ok before =>
              cases ofSpans (false ^^ (span :: rest).length.bodd) more with
              | error fault => rfl
              | ok after => exact congrArg Except.ok (List.append_assoc _ _ _).symm
      | true =>
          rw [List.cons_append, ofSpans, ofSpans, ← Bool.not_true, hrest]
          split
          · rfl
          · cases ofSpans (!true) rest with
            | error fault => rfl
            | ok before =>
                cases ofSpans (true ^^ (span :: rest).length.bodd) more with
                | error fault => rfl
                | ok after => rfl

/-! ## Texts -/

theorem ofChars_of_splitOn {cs : List Char} {spans : List (List Char)}
    (h : cs.splitOn quote = spans) :
    ofChars cs =
      if spans.length % 2 = 0 then .error .unterminatedLiteral else ofSpans false spans := by
  rw [ofChars, h]
  by_cases heven : spans.length % 2 = 0
  · simp [heven]
  · simp [heven]

/-- The spans of a text that is cut into fragments are an even number and one more outside
of literals. -/
theorem ofChars_eq_ok_iff {cs last : List Char} {spans fragments : List (List Char)}
    (hspans : cs.splitOn quote = spans ++ [last]) :
    ofChars cs = .ok fragments ↔ spans.length % 2 = 0 ∧
      ∃ before, ofSpans false spans = .ok before ∧ fragments = before ++ pieces last := by
  rw [ofChars_of_splitOn hspans, List.length_append, List.length_singleton]
  by_cases heven : spans.length % 2 = 0
  · have hbodd : spans.length.bodd = false := by
      rw [Nat.mod_two_of_bodd] at heven
      simpa using heven
    rw [if_neg (by omega), ofSpans_append, hbodd, Bool.xor_false, ofSpans, ofSpans]
    cases ofSpans false spans with
    | error fault =>
        refine iff_of_false (fun h => by cases h) ?_
        rintro ⟨_, _, h, _⟩
        cases h
    | ok before => simp [heven, Except.map, bind, Except.bind, pure, Except.pure, eq_comm]
  · rw [if_pos (by omega)]
    exact iff_of_false (fun h => by cases h) fun h => heven h.1

/-- A break is the first character of the first span. -/
theorem IsBreak.exists_splitOn_cons (hc : IsBreak c) (rest : List Char) :
    ∃ piece others, rest.splitOn quote = piece :: others ∧
      (c :: rest).splitOn quote = (c :: piece) :: others := by
  obtain ⟨piece, others, hpieces⟩ := List.exists_cons_of_ne_nil (List.splitOn_ne_nil quote rest)
  refine ⟨piece, others, hpieces, ?_⟩
  rw [List.splitOn_cons_eq_if_modifyHead, if_neg (by simpa using hc.ne_quote), hpieces]
  rfl

/-- What follows a break is outside of literals if the text before it is whole. -/
theorem IsBreak.ofChars_append (hc : IsBreak c) {before : List Char}
    {fragments : List (List Char)} (h : ofChars before = .ok fragments) (rest : List Char) :
    ofChars (before ++ c :: rest) = (ofChars (c :: rest)).map (fragments ++ ·) := by
  obtain ⟨spans, last, hspans, hmore⟩ := Text.exists_splitOn_append quote before
  obtain ⟨heven, first, hfirst, rfl⟩ := (ofChars_eq_ok_iff hspans).mp h
  obtain ⟨piece, others, _, hrest⟩ := hc.exists_splitOn_cons rest
  have hall := hmore (c :: rest)
  rw [hrest, List.modifyHead_cons] at hall
  have hbodd : spans.length.bodd = false := by
    rw [Nat.mod_two_of_bodd] at heven
    simpa using heven
  rw [ofChars_of_splitOn hall, ofChars_of_splitOn hrest, List.length_append, List.length_cons,
    List.length_cons]
  by_cases hwhole : (others.length + 1) % 2 = 0
  · rw [if_pos hwhole, if_pos (by omega)]
    rfl
  · rw [if_neg hwhole, if_neg (by omega), ofSpans_append, hfirst, ok_bind, hbodd, Bool.xor_false,
      ofSpans, ofSpans, hc.pieces_append]
    cases ofSpans true others with
    | error fault => rfl
    | ok after =>
        refine congrArg Except.ok ?_
        simp

/-- A text is whole if it is with a break and a text without quotes behind it. -/
theorem IsBreak.exists_of_ofChars_append (hc : IsBreak c) {before rest : List Char}
    (hrest : quote ∉ rest) {fragments : List (List Char)}
    (h : ofChars (before ++ c :: rest) = .ok fragments) :
    ∃ first, ofChars before = .ok first := by
  obtain ⟨spans, last, hspans, hmore⟩ := Text.exists_splitOn_append quote before
  have hall := hmore (c :: rest)
  have hfree : quote ∉ c :: rest :=
    List.not_mem_cons_of_ne_of_not_mem hc.ne_quote.symm hrest
  rw [List.splitOn_eq_singleton hfree, List.modifyHead_cons] at hall
  obtain ⟨heven, first, hfirst, _⟩ := (ofChars_eq_ok_iff hall).mp h
  exact ⟨_, (ofChars_eq_ok_iff hspans).mpr ⟨heven, first, hfirst, rfl⟩⟩

theorem ofText_append {c : Char} (hc : IsBreak c) {s t : String} {fragments : List String}
    {rest : List Char} (ht : t.toList = c :: rest) (h : ofText s = .ok fragments) :
    ofText (s ++ t) = (ofText t).map (fragments ++ ·) := by
  rw [ofText] at h
  cases hs : ofChars s.toList with
  | error fault =>
      rw [hs] at h
      cases h
  | ok first =>
      rw [hs] at h
      cases h
      rw [ofText, ofText, String.toList_append, ht, hc.ofChars_append hs]
      cases ofChars (c :: rest) with
      | error fault => rfl
      | ok after =>
          refine congrArg Except.ok ?_
          simp

/-- A blank before a text makes no difference. -/
theorem ofChars_blank {c : Char} (hc : isBlank c = true) (rest : List Char) :
    ofChars (c :: rest) = ofChars rest := by
  obtain ⟨piece, others, hpieces, hrest⟩ := IsBreak.exists_splitOn_cons (Or.inl hc) rest
  have hsame : pieces (c :: piece) = pieces piece := piecesAfter_blank hc [] piece
  rw [ofChars_of_splitOn hrest, ofChars_of_splitOn hpieces, ofSpans, ofSpans, hsame]
  rfl

theorem ofText_space (t : String) : ofText (" " ++ t) = ofText t := by
  have ht : (" " ++ t).toList = ' ' :: t.toList := by simp
  rw [ofText, ht, ofChars_blank (by decide), ofText]

/-! ## Words and literals -/

theorem ofText_of_isName {word : String} (h : Token.isName word = true) :
    ofText word = .ok [word] := by
  obtain ⟨hne, hchars⟩ := Token.isName_iff.mp h
  have hquote : quote ∉ word.toList := fun hmem => absurd (hchars _ hmem) (by decide)
  have hpieces : pieces word.toList = [word.toList] := by
    have hrun := piecesAfter_word hchars [] []
    rw [List.append_nil, List.append_nil] at hrun
    rw [pieces, hrun, piecesAfter, ofRun_reverse hne]
  rw [ofText_of_quote_not_mem hquote, hpieces]
  simp

theorem ofText_quoted {content : List Char} (h : IsContent content) :
    ofText (quoted content) = .ok [quoted content] := by
  have hspans : (literal content).splitOn quote = [[], content, []] := by
    have hopen := List.splitOn_append_cons_self (a := quote) [] (content ++ [quote])
    rw [literal, List.cons_append, ← List.nil_append (quote :: (content ++ [quote])), hopen,
      List.splitOn_append_cons_self_of_not_mem h.quote_not_mem]
    rfl
  have htab : content.contains '\t' = false := by
    rw [List.contains_eq_mem, decide_eq_false_iff_not]
    exact h.tab_not_mem
  have hodd : ¬[[], content, []].length % 2 = 0 := by simp
  rw [ofText, quoted, String.toList_ofList, ofChars_of_splitOn hspans, if_neg hodd, ofSpans,
    ofSpans, htab, if_neg Bool.false_ne_true]
  rfl

end Fragment

namespace Token

/-- **Texts can be put side by side.**  The tokens of a text with one behind it that begins
with a break are the tokens of both. -/
theorem ofText_append {c : Char} (hc : Fragment.IsBreak c) {s t : String} {tokens : List Token}
    {rest : List Char} (ht : t.toList = c :: rest) (h : ofText s = .ok tokens) :
    ofText (s ++ t) = (ofText t).map (tokens ++ ·) := by
  obtain ⟨fragments, hfragments, htokens⟩ := exists_of_bind_eq_ok h
  rw [ofText, ofText, Fragment.ofText_append hc ht hfragments]
  cases Fragment.ofText t with
  | error fault => rfl
  | ok after =>
      change (fragments ++ after).mapM ofFragment = (after.mapM ofFragment).map (tokens ++ ·)
      rw [List.mapM_append, htokens]
      rfl

/-- A space between two texts leaves their tokens as they are. -/
theorem ofText_append_space {s : String} {tokens : List Token} (h : ofText s = .ok tokens)
    (t : String) : ofText (s ++ " " ++ t) = (ofText t).map (tokens ++ ·) := by
  have hspace : Fragment.IsBreak ' ' := Or.inl (by decide)
  have ht : (" " ++ t).toList = ' ' :: t.toList := by simp
  rw [String.append_assoc, ofText_append hspace ht h, ofText, Fragment.ofText_space]
  rfl

theorem ofText_append_semicolon {s : String} {tokens : List Token} (h : ofText s = .ok tokens) :
    ofText (s ++ ";") = .ok (tokens ++ [⟨.symbol, ";"⟩]) := by
  have hbreak : Fragment.IsBreak ';' := Or.inr (by decide)
  have hlast : ofText ";" = .ok [⟨.symbol, ";"⟩] := by decide +kernel
  rw [ofText_append (t := ";") hbreak rfl h, hlast]
  rfl

/-- What stands before a semicolon that ends a text has tokens of its own. -/
theorem ofText_append_semicolon_eq_ok_iff {s : String} {tokens : List Token} :
    ofText (s ++ ";") = .ok tokens ↔
      ∃ before, ofText s = .ok before ∧ tokens = before ++ [⟨.symbol, ";"⟩] := by
  constructor
  · intro h
    obtain ⟨fragments, hfragments, htokens⟩ := exists_of_bind_eq_ok h
    have hbreak : Fragment.IsBreak ';' := Or.inr (by decide)
    obtain ⟨cut, hcut, _⟩ := exists_of_map_eq_ok hfragments
    rw [String.toList_append] at hcut
    obtain ⟨first, hfirst⟩ := hbreak.exists_of_ofChars_append List.not_mem_nil hcut
    have hs : Fragment.ofText s = .ok (first.map String.ofList) := by
      rw [Fragment.ofText, hfirst]
      rfl
    rw [Fragment.ofText_append hbreak rfl hs] at hfragments
    obtain ⟨after, _, rfl⟩ := exists_of_map_eq_ok hfragments
    rw [List.mapM_append] at htokens
    obtain ⟨before, hbefore, _⟩ := exists_of_bind_eq_ok htokens
    have hofText : ofText s = .ok before := by
      rw [ofText, hs]
      exact hbefore
    rw [ofText_append_semicolon hofText] at h
    cases h
    exact ⟨before, hofText, rfl⟩
  · rintro ⟨before, hbefore, rfl⟩
    exact ofText_append_semicolon hbefore

theorem ofText_of_classify {word : String} (h : classify word = .ok .identifier) :
    ofText word = .ok [⟨.identifier, word⟩] := by
  rw [ofText, Fragment.ofText_of_isName (isName_of_classify h), ok_bind, List.mapM_cons,
    ofFragment, h]
  rfl

theorem ofText_quoted {content : List Char} (h : Fragment.IsContent content) :
    ofText (Fragment.quoted content) = .ok [ofContent content] := by
  rw [ofText, Fragment.ofText_quoted h, ok_bind, List.mapM_cons, ofFragment_quoted]
  rfl

end Token

end TextTables
