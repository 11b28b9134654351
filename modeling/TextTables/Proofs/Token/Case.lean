import TextTables.Proofs.Attempt
import TextTables.Proofs.Text.Case
import TextTables.Token

/-!
# Tokens up to the case of their letters

A text with small letters is cut where the text itself is cut, and its tokens are the
same tokens with small letters: every mark, quote and blank stays, and the words of the
language are told in any case.
-/

namespace TextTables

namespace Fragment

open Text (isBlank)

/-! ## Fragments -/

theorem isPair_toLower (c d : Char) : isPair c.toLower d.toLower = isPair c d := by
  rw [isPair, Text.toLower_beq (by decide), Text.toLower_beq (by decide),
    Text.toLower_beq (by decide), Text.toLower_beq (by decide), Text.toLower_beq (by decide),
    isPair]

theorem loneMarks_contains_toLower (c : Char) :
    loneMarks.contains c.toLower = loneMarks.contains c :=
  Text.apply_toLower loneMarks.contains (by decide) c

theorem ofRun_map_toLower (run : List Char) :
    ofRun (run.map Char.toLower) = (ofRun run).map (List.map Char.toLower) := by
  cases run with
  | nil => rfl
  | cons c rest => simp only [List.map_cons, ofRun, List.map_reverse, List.map_nil]

theorem piecesAfter_map_toLower (run cs : List Char) :
    piecesAfter (run.map Char.toLower) (cs.map Char.toLower) =
      (piecesAfter run cs).map (List.map Char.toLower) := by
  -- Each case is one branch of the cut.  Its guards see no difference between a character
  -- and its small form, so the branch is the same one.
  fun_induction piecesAfter run cs with
  | case1 run => exact ofRun_map_toLower run
  | case2 run c rest hblank ih =>
      rw [← Text.isBlank_toLower] at hblank
      rw [List.map_cons, piecesAfter.eq_def]
      simp only [if_pos hblank, List.map_append, ofRun_map_toLower, ← ih, List.map_nil]
  | case3 run c hblank d tail hpair ih =>
      rw [← Text.isBlank_toLower] at hblank
      rw [← isPair_toLower] at hpair
      rw [List.map_cons, List.map_cons, piecesAfter, if_neg hblank]
      simp only [if_pos hpair, List.map_append, List.map_cons, ofRun_map_toLower, ← ih,
        List.map_nil]
  | case4 run c hblank d tail hpair hmark ih =>
      rw [← Text.isBlank_toLower] at hblank
      rw [← isPair_toLower] at hpair
      rw [← loneMarks_contains_toLower] at hmark
      rw [List.map_cons, List.map_cons, piecesAfter, if_neg hblank]
      simp only [if_neg hpair, if_pos hmark, List.map_append, List.map_cons, ofRun_map_toLower,
        ← ih, List.map_nil]
  | case5 run c hblank d tail hpair hmark ih =>
      rw [← Text.isBlank_toLower] at hblank
      rw [← isPair_toLower] at hpair
      rw [← loneMarks_contains_toLower] at hmark
      rw [List.map_cons, List.map_cons, piecesAfter, if_neg hblank]
      simp only [if_neg hpair, if_neg hmark, ← ih, List.map_cons]
  | case6 run c hblank hmark =>
      rw [← Text.isBlank_toLower] at hblank
      rw [← loneMarks_contains_toLower] at hmark
      rw [List.map_cons, List.map_nil, piecesAfter, if_neg hblank]
      simp only [if_pos hmark, List.map_append, List.map_cons, ofRun_map_toLower, List.map_nil]
  | case7 run c hblank hmark =>
      rw [← Text.isBlank_toLower] at hblank
      rw [← loneMarks_contains_toLower] at hmark
      rw [List.map_cons, List.map_nil, piecesAfter, if_neg hblank]
      simp only [if_neg hmark, ← ofRun_map_toLower, List.map_cons]

theorem splitOn_map_toLower (cs : List Char) :
    (cs.map Char.toLower).splitOn quote = (cs.splitOn quote).map (List.map Char.toLower) := by
  induction cs with
  | nil => rfl
  | cons c rest ih =>
      rw [List.map_cons, List.splitOn_cons_eq_if_modifyHead, List.splitOn_cons_eq_if_modifyHead,
        Text.toLower_beq (by decide), ih]
      split
      · rfl
      · cases rest.splitOn quote with
        | nil => rfl
        | cons head tail => rfl

theorem contains_tab_map_toLower (span : List Char) :
    (span.map Char.toLower).contains '\t' = span.contains '\t' := by
  induction span with
  | nil => rfl
  | cons c rest ih =>
      rw [List.map_cons, List.contains_cons, List.contains_cons, ih, Bool.beq_comm,
        Text.toLower_beq (by decide), Bool.beq_comm]

theorem literal_map_toLower (content : List Char) :
    literal (content.map Char.toLower) = (literal content).map Char.toLower := by
  simp only [literal, List.map_cons, List.map_append, List.map_nil]
  rfl

theorem ofSpans_map_toLower (inside : Bool) (spans : List (List Char)) :
    ofSpans inside (spans.map (List.map Char.toLower)) =
      (ofSpans inside spans).map (List.map (List.map Char.toLower)) := by
  induction spans generalizing inside with
  | nil => cases inside <;> rfl
  | cons span rest ih =>
      cases inside with
      | false =>
          rw [List.map_cons, ofSpans, ofSpans, ih, pieces, ← List.map_nil, piecesAfter_map_toLower]
          cases ofSpans true rest with
          | error fault => rfl
          | ok more => simp [Except.map, pure, Except.pure, bind, Except.bind, pieces]
      | true =>
          rw [List.map_cons, ofSpans, ofSpans, ih, contains_tab_map_toLower]
          split
          · rfl
          · rw [literal_map_toLower]
            cases ofSpans false rest with
            | error fault => rfl
            | ok more => rfl

/-- A text with small letters is cut in the same places. -/
theorem ofText_small (s : String) :
    ofText (Text.small s) = (ofText s).map (List.map Text.small) := by
  have hchars : ofChars (s.toList.map Char.toLower) =
      (ofChars s.toList).map (List.map (List.map Char.toLower)) := by
    rw [ofChars, ofChars, splitOn_map_toLower]
    simp only [List.length_map]
    split
    · rfl
    · exact ofSpans_map_toLower false _
  rw [ofText, Text.toList_small, hchars, ofText]
  cases ofChars s.toList with
  | error fault => rfl
  | ok fragments => simp [Except.map, Text.small_ofList]

end Fragment

namespace Token

open Text (small)

/-! ## Categories -/

theorem isKeyword_small (s : String) : isKeyword (small s) = isKeyword s := by
  rw [isKeyword, isKeyword]
  congr 1
  funext keyword
  exact Text.sameWord_small s keyword

theorem isLogicalOperator_small (s : String) :
    isLogicalOperator (small s) = isLogicalOperator s := by
  rw [isLogicalOperator, Text.sameWord_small, Text.sameWord_small, isLogicalOperator]

/-- Marks without letters are told in any case. -/
theorem contains_small {marks : List String}
    (h : ∀ mark ∈ marks, mark.toList.all (!·.isAlpha) = true) (s : String) :
    marks.contains (small s) = marks.contains s := by
  induction marks with
  | nil => rfl
  | cons mark rest ih =>
      obtain ⟨hmark, hrest⟩ := List.forall_mem_cons.mp h
      rw [List.contains_cons, List.contains_cons, ih hrest, Text.small_beq hmark]

theorem isSymbol_small (s : String) : isSymbol (small s) = isSymbol s :=
  contains_small (by decide) s

theorem isOperator_small (s : String) : isOperator (small s) = isOperator s :=
  contains_small (by decide) s

theorem isNumeral_small (s : String) : Decimal.isNumeral (small s) = Decimal.isNumeral s := by
  rw [Decimal.isNumeral, Decimal.ofText?_small, Decimal.isNumeral]

theorem unquoted?_map_toLower (cs : List Char) :
    unquoted? (cs.map Char.toLower) = (unquoted? cs).map (List.map Char.toLower) := by
  cases cs with
  | nil => rfl
  | cons c rest =>
      have hlast : ((rest.map Char.toLower).getLast? == some Fragment.quote) =
          (rest.getLast? == some Fragment.quote) := by
        rw [List.getLast?_map]
        cases rest.getLast? with
        | none => rfl
        | some d => exact Text.toLower_beq (by decide) d
      rw [List.map_cons, unquoted?, unquoted?, Text.toLower_beq (by decide), hlast]
      split
      · rw [Option.map_some, List.map_dropLast]
      · rfl

theorem isLiteral_small (s : String) : isLiteral (small s) = isLiteral s := by
  rw [isLiteral, Text.toList_small, unquoted?_map_toLower, Option.isSome_map, isLiteral]

theorem stripQuotes_small (s : String) : stripQuotes (small s) = small (stripQuotes s) := by
  rw [stripQuotes, Text.toList_small, unquoted?_map_toLower, stripQuotes]
  cases unquoted? s.toList with
  | none => rfl
  | some content => exact (Text.small_ofList content).symm

theorem isName_small (s : String) : isName (small s) = isName s := by
  have hchar : isNameChar ∘ Char.toLower = isNameChar :=
    funext (Text.apply_toLower isNameChar (by decide))
  rw [isName, Text.toList_small, List.isEmpty_map, List.all_map, hchar, isName]

/-- A fragment has the same category in any case of its letters, if it has one. -/
theorem toOption_classify_small (s : String) :
    (classify (small s)).toOption = (classify s).toOption := by
  unfold classify
  rw [isKeyword_small, isSymbol_small, isLogicalOperator_small, isOperator_small,
    isNumeral_small, isLiteral_small, isName_small]
  repeat' split
  all_goals rfl

/-! ## Tokens -/

/-- A token with the letters `A` to `Z` of its value made small. -/
def small (token : Token) : Token :=
  ⟨token.category, Text.small token.value⟩

@[simp] theorem category_small (token : Token) : token.small.category = token.category := rfl

@[simp] theorem value_small (token : Token) : token.small.value = Text.small token.value := rfl

theorem toOption_ofFragment_small (s : String) :
    (ofFragment (Text.small s)).toOption = (ofFragment s).toOption.map small := by
  have hcategory := toOption_classify_small s
  rw [ofFragment, toOption_map, hcategory, ofFragment, toOption_map, Option.map_map]
  rfl

/-- A text with small letters has the tokens of the text, with small letters. -/
theorem toOption_ofText_small (s : String) :
    (ofText (Text.small s)).toOption = (ofText s).toOption.map (List.map small) := by
  rw [ofText, toOption_bind, Fragment.ofText_small, toOption_map, ofText, toOption_bind]
  cases (Fragment.ofText s).toOption with
  | none => rfl
  | some fragments => exact toOption_mapM_map toOption_ofFragment_small fragments

theorem is_small (token : Token) (category : Category) (value : String) :
    token.small.is category value = token.is category value := by
  rw [is, is, small, Text.sameWord_small]

end Token

end TextTables
