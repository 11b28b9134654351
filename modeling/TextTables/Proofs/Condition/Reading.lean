import TextTables.Condition.Reading
import TextTables.Proofs.Attempt
import TextTables.Proofs.Fault

/-!
# Reading a condition step by step

What the reader of conditions does with one token, and what it can say where it stops: it
repeats a token or nothing at all.
-/

namespace TextTables.Condition

theorem readOn_operand (group : Group) (around : List Group) (token : Token)
    (rest : List Token) :
    readOn (.operand group) around (token :: rest) =
      if token.is .symbol "(" then readOn (.operand .start) (group :: around) rest
      else if token.category != .identifier then .error (.columnExpected token.value)
      else
        match rest with
        | sign :: literal :: rest =>
          if isLiteralCategory literal.category then
            readOn (.junction group (group.conjoin (test token.value sign.value
              (Token.stripQuotes literal.value)))) around rest
          else .error (.valueExpected literal.value)
        | _ => .error .incompleteCondition :=
  readOn.eq_def (.operand group) around (token :: rest)

theorem readOn_junction (group : Group) (conjunction : Condition) (around : List Group)
    (token : Token) (rest : List Token) :
    readOn (.junction group conjunction) around (token :: rest) =
      if token.is .logicalOperator "AND" then
        readOn (.operand ⟨group.alternative, some conjunction⟩) around rest
      else if token.is .logicalOperator "OR" then
        readOn (.operand ⟨some (group.close conjunction), none⟩) around rest
      else
        match around with
        | [] => .error (.conditionContinues token.value)
        | outer :: around =>
          if token.is .symbol ")" then
            readOn (.junction outer (outer.conjoin (group.close conjunction))) around rest
          else .error .unclosedParenthesis :=
  readOn.eq_def (.junction group conjunction) around (token :: rest)

/-- What is wrong with a condition is told with the value of one of its tokens. -/
theorem satisfies_readOn {c : Char} {reading : Reading} {around : List Group}
    {tokens : List Token} (htokens : ∀ token ∈ tokens, Text.FreeOf c token.value) :
    Satisfies (Fault.Avoids c) (fun _ => True) (readOn reading around tokens) := by
  fun_induction readOn reading around tokens with
  | case1 | case2 => exact .error (Fault.avoids_of_words_eq_nil nofun rfl)
  | case3 => exact .ok trivial
  | case4 _ token rest _ _ ih => exact ih (List.forall_mem_cons.mp htokens).2
  | case5 _ token =>
      have htoken := htokens token List.mem_cons_self
      exact .error (Fault.avoids_of_words_eq_singleton nofun rfl htoken)
  | case6 _ token _ _ _ sign literal rest _ _ ih =>
      refine ih fun other hother => htokens other ?_
      exact List.mem_cons_of_mem _ (List.mem_cons_of_mem _ (List.mem_cons_of_mem _ hother))
  | case7 _ token _ _ _ sign literal =>
      have hliteral := htokens literal (by simp)
      exact .error (Fault.avoids_of_words_eq_singleton nofun rfl hliteral)
  | case8 => exact .error (Fault.avoids_of_words_eq_nil nofun rfl)
  | case9 _ token rest _ _ _ ih => exact ih (List.forall_mem_cons.mp htokens).2
  | case10 _ token rest _ _ _ _ ih => exact ih (List.forall_mem_cons.mp htokens).2
  | case11 token =>
      have htoken := htokens token List.mem_cons_self
      exact .error (Fault.avoids_of_words_eq_singleton nofun rfl htoken)
  | case12 token rest _ _ _ _ _ _ _ _ ih => exact ih (List.forall_mem_cons.mp htokens).2
  | case13 => exact .error (Fault.avoids_of_words_eq_nil nofun rfl)

end TextTables.Condition
