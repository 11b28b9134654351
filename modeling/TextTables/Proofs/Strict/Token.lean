import TextTables.Proofs.Strict.Access
import TextTables.Token

/-!
# Cutting texts with strict accesses

Unquoted text is cut by a place that moves over its characters, and the quotes of a literal are
taken off by their bytes.  No place is passed that is not there.
-/

namespace TextTables.Strict

open Fragment (ofRun isPair loneMarks piecesAfter literal quote)
open Text (isBlank)

/-! ## Unquoted text -/

/-- Cuts the unquoted text from a place on, after the run read so far. -/
def pieces (cs : List Char) (place : Nat) (run : List Char) : Option (List (List Char)) :=
  if _h : place < cs.length then
    match cs[place]? with
    | none => none
    | some c =>
      if isBlank c then (pieces cs (place + 1) []).map (ofRun run ++ ·)
      else
        match cs[place + 1]?.filter (isPair c) with
        | some d => (pieces cs (place + 2) []).map (ofRun run ++ [c, d] :: ·)
        | none =>
          if loneMarks.contains c then (pieces cs (place + 1) []).map (ofRun run ++ [c] :: ·)
          else pieces cs (place + 1) (c :: run)
  else
    some (ofRun run)
termination_by cs.length - place

theorem piecesAfter_cons (run : List Char) (c : Char) (rest : List Char) :
    piecesAfter run (c :: rest) =
      if isBlank c then ofRun run ++ piecesAfter [] rest
      else
        match rest.head?.filter (isPair c) with
        | some d => ofRun run ++ [c, d] :: piecesAfter [] rest.tail
        | none =>
          if loneMarks.contains c then ofRun run ++ [c] :: piecesAfter [] rest
          else piecesAfter (c :: run) rest := by
  cases rest with
  | nil => rw [piecesAfter]; rfl
  | cons d tail =>
      rw [piecesAfter, List.head?_cons, Option.filter_some, List.tail_cons]
      cases isPair c d with
      | true => rfl
      | false => rfl

/-- The place never leaves the text. -/
theorem pieces_eq_some (cs : List Char) (place : Nat) (run : List Char) :
    pieces cs place run = some (piecesAfter run (cs.drop place)) := by
  have hdrop : ∀ {place c}, cs[place]? = some c → cs.drop place = c :: cs.drop (place + 1) := by
    intro place c hc
    obtain ⟨hplace, rfl⟩ := List.getElem?_eq_some_iff.mp hc
    exact List.drop_eq_getElem_cons hplace
  -- The cases are those of the strict cutting, where the place goes up to the end.
  fun_induction pieces cs place run with
  | case1 place run hplace hmissing =>
      rw [List.getElem?_eq_getElem hplace] at hmissing
      cases hmissing
  | case2 place run hplace c hc hblank ih =>
      rw [ih, hdrop hc, piecesAfter_cons, if_pos hblank, Option.map_some]
  | case3 place run hplace c hc hblank d hd ih =>
      rw [ih, hdrop hc, piecesAfter_cons, if_neg hblank, List.head?_drop, hd, List.tail_drop,
        Option.map_some]
  | case4 place run hplace c hc hblank hd hlone ih =>
      rw [ih, hdrop hc, piecesAfter_cons, if_neg hblank, List.head?_drop, hd, Option.map_some]
      exact congrArg some (if_pos hlone).symm
  | case5 place run hplace c hc hblank hd hlone ih =>
      rw [ih, hdrop hc, piecesAfter_cons, if_neg hblank, List.head?_drop, hd]
      exact congrArg some (if_neg hlone).symm
  | case6 place run hplace => rw [List.drop_eq_nil_of_le (Nat.le_of_not_lt hplace), piecesAfter]

/-! ## Fragments and tokens -/

/-- Cuts the spans between quotes, which are by turns outside and inside a literal. -/
def ofSpans : Bool → List (List Char) → Answer (List (List Char))
  | _, [] => return []
  | false, span :: rest => do
    let here ← pieces span 0 []
    let more ← ofSpans true rest
    return here ++ more
  | true, span :: rest =>
    if span.contains '\t' then throw .tabInLiteral
    else do
      let more ← ofSpans false rest
      return literal span :: more

/-- Cuts the text of a statement into fragments. -/
def fragments (s : String) : Answer (List String) := do
  let spans := s.toList.splitOn quote
  if spans.length % 2 == 0 then throw .unterminatedLiteral
  else return (← ofSpans false spans).map String.ofList

/-- The tokens of a statement. -/
def tokens (s : String) : Answer (List Token) := do
  (← fragments s).mapM fun fragment => Token.ofFragment fragment

theorem run_ofSpans (inside : Bool) (spans : List (List Char)) :
    (ofSpans inside spans).run = some (Fragment.ofSpans inside spans) := by
  fun_induction ofSpans inside spans with
  | case1 => rfl
  | case2 span rest ih =>
      rw [pieces_eq_some, List.drop_zero, run_liftM_bind]
      exact run_bind_eq_some ih fun _ _ => rfl
  | case3 span rest htab => rw [Fragment.ofSpans, if_pos htab]; rfl
  | case4 span rest htab ih =>
      rw [Fragment.ofSpans, if_neg htab]
      exact run_bind_eq_some ih fun _ _ => rfl

theorem run_fragments (s : String) : (fragments s).run = some (Fragment.ofText s) := by
  rw [fragments, Fragment.ofText, Fragment.ofChars]
  split
  · rfl
  · exact run_bind_eq_some (run_ofSpans _ _) fun _ _ => rfl

theorem run_tokens (s : String) : (tokens s).run = some (Token.ofText s) :=
  run_bind_eq_some (run_fragments s) fun _ _ => run_mapM_eq_some fun _ _ => rfl

/-! ## Literals -/

/-- The content of a literal, which stands between its first and its last byte; any other text
as it is. -/
def stripQuotes (value : String) : Option String :=
  if Token.isLiteral value then
    (sliceBytes? value.toList 1 (value.utf8ByteSize - 1)).map String.ofList
  else
    some value

theorem eq_literal_of_unquoted?_eq_some {cs content : List Char}
    (h : Token.unquoted? cs = some content) : cs = literal content := by
  cases cs with
  | nil => cases h
  | cons c rest =>
      rw [Token.unquoted?] at h
      split at h
      · next hquotes =>
          obtain ⟨hfirst, hlast⟩ := Bool.and_eq_true_iff.mp hquotes
          cases h
          rw [beq_iff_eq.mp hfirst, literal, List.cons_append,
            List.dropLast_append_getLast? _ (beq_iff_eq.mp hlast)]
      · cases h

/-- The quotes of a literal take one byte each. -/
theorem stripQuotes_eq_some (value : String) :
    stripQuotes value = some (Token.stripQuotes value) := by
  unfold stripQuotes Token.isLiteral Token.stripQuotes
  cases hcontent : Token.unquoted? value.toList with
  | none => rfl
  | some content =>
      have hvalue := eq_literal_of_unquoted?_eq_some hcontent
      have hstop : value.utf8ByteSize - 1 = String.utf8Len ([quote] ++ content) := by
        rw [← String.utf8Len_toList, hvalue, literal, String.utf8Len_append, Nat.add_sub_assoc]
        · rfl
        · exact quote.utf8Size_pos
      rw [Option.isSome_some, if_pos rfl, hstop, hvalue]
      exact congrArg _ (sliceBytes?_of_append [quote] content [quote])

end TextTables.Strict
