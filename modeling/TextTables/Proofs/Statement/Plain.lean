import TextTables.Proofs.Statement.Scanning
import TextTables.Statement.Reading

/-!
# Statements without literals

Outside of literals a text is cut into its words and marks.  A word goes into one
fragment, and a blank text has no fragments and is no statement.
-/

namespace TextTables

namespace Fragment

open Text (isBlank)

theorem ofText_of_quote_not_mem {text : String} (h : quote ∉ text.toList) :
    ofText text = .ok ((pieces text.toList).map String.ofList) := by
  have hspans : text.toList.splitOn quote = [text.toList] := List.splitOn_eq_singleton h
  rw [ofText, ofChars, hspans]
  have hpieces : ofSpans false [text.toList] = .ok (pieces text.toList) :=
    congrArg Except.ok (List.append_nil (pieces text.toList))
  simp only [List.length_singleton, hpieces]
  rfl

theorem piecesAfter_blank {c : Char} (h : isBlank c = true) (run rest : List Char) :
    piecesAfter run (c :: rest) = ofRun run ++ piecesAfter [] rest := by
  cases rest with
  | nil => simp [piecesAfter, h]
  | cons d tail => simp [piecesAfter, h]

theorem pieces_of_forall_isBlank {cs : List Char} (h : ∀ c ∈ cs, isBlank c = true) :
    pieces cs = [] := by
  rw [pieces]
  induction cs with
  | nil => rfl
  | cons c rest ih =>
      rw [piecesAfter_blank (h c List.mem_cons_self),
        ih fun d hd => h d (List.mem_cons_of_mem _ hd)]
      rfl

/-! ## Words -/

theorem not_mark_of_isNameChar {c : Char} (h : Token.isNameChar c = true) :
    c ∉ loneMarks ∧ ∀ d, isPair c d = false := by
  have hne : ∀ m ∈ '!' :: loneMarks, c ≠ m := by
    rintro m hm rfl
    simp only [loneMarks, List.mem_cons, List.not_mem_nil, or_false] at hm
    rcases hm with rfl | rfl | rfl | rfl | rfl | rfl | rfl | rfl | rfl <;> cases h
  refine ⟨?_, fun d => ?_⟩
  · exact fun hmem => hne c (List.mem_cons_of_mem _ hmem) rfl
  · have heq := hne '=' (by decide)
    have hbang := hne '!' (by decide)
    have hlt := hne '<' (by decide)
    have hgt := hne '>' (by decide)
    simp [isPair, heq, hbang, hlt, hgt]

/-- The characters of a word go to the run that is being read. -/
theorem piecesAfter_word {word : List Char} (h : ∀ c ∈ word, Token.isNameChar c = true)
    (run rest : List Char) :
    piecesAfter run (word ++ rest) = piecesAfter (word.reverse ++ run) rest := by
  induction word generalizing run with
  | nil => rfl
  | cons c more ih =>
      have hc := h c List.mem_cons_self
      obtain ⟨hlone, hpair⟩ := not_mark_of_isNameChar hc
      have hstep : piecesAfter run (c :: (more ++ rest)) =
          piecesAfter (c :: run) (more ++ rest) := by
        have hblank := Token.not_isBlank_of_isNameChar hc
        cases more ++ rest with
        | nil => simp [piecesAfter, hblank, hlone]
        | cons d tail => simp [piecesAfter, hblank, hlone, hpair]
      rw [List.cons_append, hstep, ih fun d hd => h d (List.mem_cons_of_mem _ hd),
        List.reverse_cons, List.append_assoc, List.singleton_append]

theorem ofRun_reverse {word : List Char} (h : word ≠ []) : ofRun word.reverse = [word] := by
  unfold ofRun
  split
  · next heq => exact absurd (List.reverse_eq_nil_iff.mp heq) h
  · rw [List.reverse_reverse]

end Fragment

namespace Scan

theorem nameOf_of_isNameWord {word : String} (h : Token.IsNameWord word) :
    nameOf ⟨.identifier, word⟩ = .ok word := by
  have hstar : (word == "*") = false := beq_false_of_ne h.ne_star
  have htrue : (word == "TRUE") = false := by
    apply beq_false_of_ne
    rintro rfl
    cases h.ne_true
  have hfalse : (word == "FALSE") = false := by
    apply beq_false_of_ne
    rintro rfl
    cases h.ne_false
  simp [nameOf, valueOf, hstar, htrue, hfalse, h.ne_true, h.ne_false, h.isName]

end Scan

namespace Statement

/-- No statement is blank. -/
theorem allBlank_eq_false_of_ofText {text : String} {statement : Statement}
    (h : ofText text = .ok statement) : Text.allBlank text = false := by
  rw [Bool.eq_false_iff]
  intro hblank
  have hall : ∀ c ∈ text.toList, Text.isBlank c = true := List.all_eq_true.mp hblank
  have hquote : Fragment.quote ∉ text.toList := by
    intro hmem
    exact absurd (hall _ hmem) (by decide)
  have hfragments : Fragment.ofText text = .ok [] := by
    rw [Fragment.ofText_of_quote_not_mem hquote, Fragment.pieces_of_forall_isBlank hall]
    rfl
  rw [ofText, Token.ofText, hfragments] at h
  cases h

end Statement

end TextTables
