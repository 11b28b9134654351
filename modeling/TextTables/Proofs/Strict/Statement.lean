import TextTables.Proofs.Statement.Recognition
import TextTables.Proofs.Strict.Token

/-!
# Reading statements with strict accesses

A clause is the part of the whole stream of tokens from the place where the scan stood when the
clause began to the place where it ended.  Every scan leaves tokens that the stream ends with,
so both places are in the stream and in order.
-/

namespace TextTables.Strict

open Scan Statement
open Condition (Group isLiteralCategory)

/-! ## Conditions -/

/-- Reads on from where the reader of conditions stands, inside the groups `around`. -/
def readOn (reading : Condition.Reading) (around : List Group) : List Token → Answer Condition
  | [] =>
    match reading, around with
    | .operand _, _ => throw .incompleteCondition
    | .junction _ _, _ :: _ => throw .unclosedParenthesis
    | .junction group conjunction, [] => return group.close conjunction
  | token :: rest =>
    match reading with
    | .operand group =>
      if token.is .symbol "(" then readOn (.operand .start) (group :: around) rest
      else if token.category != .identifier then throw (.columnExpected token.value)
      else
        match rest with
        | sign :: literal :: rest =>
          if isLiteralCategory literal.category then do
            let operand := .test token.value sign.value (← stripQuotes literal.value)
            readOn (.junction group (group.conjoin operand)) around rest
          else
            throw (.valueExpected literal.value)
        | _ => throw .incompleteCondition
    | .junction group conjunction =>
      if token.is .logicalOperator "AND" then
        readOn (.operand ⟨group.alternative, some conjunction⟩) around rest
      else if token.is .logicalOperator "OR" then
        readOn (.operand ⟨some (group.close conjunction), none⟩) around rest
      else
        match around with
        | [] => throw (.conditionContinues token.value)
        | outer :: around =>
          if token.is .symbol ")" then
            readOn (.junction outer (outer.conjoin (group.close conjunction))) around rest
          else
            throw .unclosedParenthesis

theorem run_readOn (reading : Condition.Reading) (around : List Group) (tokens : List Token) :
    (readOn reading around tokens).run = some (Condition.readOn reading around tokens) := by
  fun_induction Condition.readOn reading around tokens with
  | case1 | case2 | case3 => rfl
  | case4 around token rest group hopen ih =>
      rw [readOn.eq_def]
      simpa only [if_pos hopen] using ih
  | case5 around token rest group hopen hcategory =>
      rw [readOn.eq_def]
      simp only [if_neg hopen, if_pos hcategory]
      rfl
  | case6 around token group hopen hcategory sign literal rest hliteral operand ih =>
      rw [readOn]
      simp only [if_neg hopen, if_neg hcategory, if_pos hliteral, stripQuotes_eq_some]
      exact ih
  | case7 around token group hopen hcategory sign literal rest hliteral =>
      rw [readOn]
      simp only [if_neg hopen, if_neg hcategory, if_neg hliteral]
      rfl
  | case8 around token rest group hopen hcategory hshort =>
      rw [readOn.eq_def]
      simp only [if_neg hopen, if_neg hcategory]
      obtain _ | ⟨sign, _ | ⟨literal, rest⟩⟩ := rest
      · rfl
      · rfl
      · exact absurd rfl (hshort sign literal rest)
  | case9 around token rest group conjunction hand ih =>
      rw [readOn.eq_def]
      simpa only [if_pos hand] using ih
  | case10 around token rest group conjunction hand hor ih =>
      rw [readOn.eq_def]
      simpa only [if_neg hand, if_pos hor] using ih
  | case11 token rest group conjunction hand hor =>
      rw [readOn]
      simp only [if_neg hand, if_neg hor]
      rfl
  | case12 token rest group conjunction hand hor outer around hclose operand ih =>
      rw [readOn]
      simpa only [if_neg hand, if_neg hor, if_pos hclose] using ih
  | case13 token rest group conjunction hand hor outer around hclose =>
      rw [readOn]
      simp only [if_neg hand, if_neg hor, if_neg hclose]
      rfl

/-- The condition that the tokens of a clause are. -/
def clauseOf : List Token → Answer (Option Condition)
  | [] => return none
  | tokens => return some (← readOn (.operand .start) [] tokens)

theorem run_clauseOf (tokens : List Token) :
    (clauseOf tokens).run = some (Scan.clauseOf tokens) := by
  cases tokens with
  | nil => rfl
  | cons token rest => exact run_bind_eq_some (run_readOn _ _ _) fun _ _ => rfl

/-! ## What scans leave -/

section

variable {α : Type} {stream : List Token}

/-- The scan leaves tokens that the stream ends with. -/
abbrev Leaves (stream : List Token) (scan : Scan α) : Prop :=
  scan.Preserves (· <:+ stream)

theorem leaves_ofExcept (answer : Except Fault α) :
    Leaves stream (Attempt.ofExcept answer : Scan α) :=
  (Attempt.readOnly_ofExcept answer).preserves

theorem leaves_pure (a : α) : Leaves stream (pure a : Scan α) :=
  (Attempt.readOnly_pure a).preserves

theorem leaves_fail (fault : Fault) : Leaves stream (Attempt.fail fault : Scan α) :=
  (Attempt.readOnly_fail fault).preserves

theorem leaves_accept (category : Category) (value : String) :
    Leaves stream (accept category value) := by
  intro tokens htokens
  cases tokens with
  | nil => exact htokens
  | cons token rest =>
      simp only [Attempt.run, accept]
      split
      · exact (List.suffix_cons token rest).trans htokens
      · exact htokens

theorem leaves_keyword (word : String) : Leaves stream (keyword word) := by
  refine (leaves_accept _ _).bind fun found => ?_
  cases found with
  | true => exact leaves_pure _
  | false => exact leaves_fail _

/-- A scan of one token. -/
theorem leaves_next_ofExcept (f : Token → Except Fault α) :
    Leaves stream (next >>= fun token => Attempt.ofExcept (f token)) := by
  refine Attempt.Preserves.bind ?_ fun token => leaves_ofExcept _
  intro tokens htokens
  cases tokens with
  | nil => exact htokens
  | cons token rest => exact (List.suffix_cons token rest).trans htokens

theorem leaves_listUpTo {entry : List α → Scan α} (hentry : ∀ before, Leaves stream (entry before))
    (bound : Nat) (before : List α) : Leaves stream (listUpTo entry bound before) := by
  induction bound generalizing before with
  | zero => exact leaves_pure _
  | succ bound ih =>
      refine (hentry before).bind fun a => ?_
      refine (leaves_accept _ _).bind fun continues => ?_
      cases continues with
      | true => exact ih _
      | false => exact leaves_pure _

theorem leaves_list {entry : List α → Scan α} (hentry : ∀ before, Leaves stream (entry before)) :
    Leaves stream (list entry) :=
  fun tokens htokens => leaves_listUpTo hentry _ _ tokens htokens

theorem leaves_clauseTokens (depth : Nat) : Leaves stream (clauseTokens depth) := by
  intro tokens htokens
  change (clauseTokens depth tokens).2 <:+ stream
  fun_induction clauseTokens depth tokens with
  | case1 | case2 | case4 => exact htokens
  | case3 depth token rest _ _ inside left hinner ih =>
      rw [hinner] at ih
      exact ih ((List.suffix_cons token rest).trans htokens)
  | case5 token rest _ _ _ depth inside left hinner ih =>
      rw [hinner] at ih
      exact ih ((List.suffix_cons token rest).trans htokens)
  | case6 depth token rest _ _ _ inside left hinner ih =>
      rw [hinner] at ih
      exact ih ((List.suffix_cons token rest).trans htokens)

theorem leaves_finish : Leaves stream finish := by
  refine (leaves_accept _ _).bind fun found => ?_
  cases found with
  | true =>
      intro tokens htokens
      cases tokens with
      | nil => exact htokens
      | cons token rest => exact htokens
  | false => exact leaves_fail _

theorem leaves_selection : Leaves stream selection := by
  refine (leaves_accept _ _).bind fun all => ?_
  cases all with
  | true => exact leaves_pure _
  | false => exact (leaves_list fun _ => leaves_next_ofExcept _).bind fun _ => leaves_pure _

theorem leaves_assignment : Leaves stream assignment := by
  refine (leaves_next_ofExcept _).bind fun column => ?_
  split
  · exact leaves_fail _
  · refine (leaves_next_ofExcept _).bind fun _ => ?_
    exact (leaves_next_ofExcept _).bind fun _ => leaves_pure _

end

/-! ## Clauses -/

variable (stream : List Token)

/-- The condition of the clause from one place of the stream to another. -/
def clauseBetween (start stop : Nat) : Answer (Option Condition) := do
  clauseOf (← slice? stream start stop)

/-- Takes a clause, and notes the places where it begins and ends. -/
def clause : Strict (List Token) (Option Condition) := do
  let start := stream.length - (← get).length
  let _ ← clauseTokens 0
  let stop := stream.length - (← get).length
  clauseBetween stream start stop

/-- Takes the condition of a statement, if it has one. -/
def condition : Strict (List Token) (Option Condition) := do
  if ← accept .keyword "WHERE" then clause stream else return none

/-- Reads `SELECT`. -/
def readSelect : Strict (List Token) Statement := do
  keyword "SELECT"
  let columns ← selection
  mark .keyword "FROM"
  let table ← name
  let rows ← condition stream
  finish
  return .select table columns rows

/-- Reads `UPDATE`. -/
def readUpdate : Strict (List Token) Statement := do
  keyword "UPDATE"
  let table ← name
  keyword "SET"
  let assignments ← list fun _ => assignment
  let rows ← condition stream
  finish
  return .update table assignments rows

/-- Reads `DELETE`. -/
def readDelete : Strict (List Token) Statement := do
  keyword "DELETE"
  keyword "FROM"
  let table ← name
  let rows ← condition stream
  finish
  return .delete table rows

/-- The routine that reads a form.  A form without a condition accesses nothing. -/
def scan : Form → Strict (List Token) Statement
  | .select => readSelect stream
  | .update => readUpdate stream
  | .delete => readDelete stream
  | form => liftM form.scan

/-- Reads a statement from all of the tokens. -/
def ofTokens : Answer Statement := do
  let form ← Form.ofTokens stream
  ExceptT.mk (((scan stream form).run.run stream).map Prod.fst)

/-- Reads the text of a statement. -/
def statement (s : String) : Answer Statement := do
  ofTokens (← tokens s)

variable {stream}

theorem run_clauseBetween (before inside left : List Token) :
    (clauseBetween (before ++ inside ++ left) before.length (before ++ inside).length).run =
      some (Scan.clauseOf inside) := by
  rw [clauseBetween, slice?_of_append, run_liftM_bind, run_clauseOf]

theorem run_clause (tokens : List Token) :
    (clause stream).run.run tokens =
      match clauseTokens 0 tokens with
      | (.ok _, left) =>
        (clauseBetween stream (stream.length - tokens.length)
          (stream.length - left.length)).run.map fun found => (found, left)
      | (.error fault, left) => some (.error fault, left) := by
  refine (run_bind get _ tokens).trans ?_
  refine (run_bind (liftM (clauseTokens 0 : Scan (List Token))) _ tokens).trans ?_
  rw [run_attempt, Attempt.run, Option.bind_some]
  obtain ⟨fault | taken, left⟩ := clauseTokens 0 tokens
  · rfl
  · rfl

/-- A clause begins and ends in the stream, and does not end before it begins. -/
theorem follows_clause :
    Follows (· <:+ stream) (clause stream)
      (clauseTokens 0 >>= fun tokens => Attempt.ofExcept (Scan.clauseOf tokens)) := by
  rintro tokens ⟨before, rfl⟩
  have hleft := leaves_clauseTokens 0 tokens (List.suffix_append before tokens)
  rw [Attempt.run] at hleft
  rw [run_clause, Attempt.run_bind, Attempt.run]
  cases hrun : clauseTokens 0 tokens with
  | mk answer left =>
      rw [hrun] at hleft
      cases answer with
      | error fault => exact ⟨rfl, hleft⟩
      | ok inside =>
          -- What was taken and what is left are the tokens, so both places are lengths of what
          -- the stream begins with.
          obtain ⟨rfl, _⟩ := clauseTokens_eq_ok_iff.mp hrun
          have hstart : (before ++ (inside ++ left)).length - (inside ++ left).length =
              before.length := by
            rw [List.length_append, Nat.add_sub_cancel]
          have hstop : (before ++ (inside ++ left)).length - left.length =
              (before ++ inside).length := by
            rw [← List.append_assoc, List.length_append, Nat.add_sub_cancel]
          refine ⟨?_, hleft⟩
          simp only [hstart, hstop]
          rw [← List.append_assoc, run_clauseBetween]
          rfl

theorem follows_condition : Follows (· <:+ stream) (condition stream) Scan.condition := by
  refine (follows_of_preserves (leaves_accept _ _)).bind fun found => ?_
  cases found with
  | true => exact follows_clause
  | false => exact follows_pure _

theorem follows_readSelect : Follows (· <:+ stream) (readSelect stream) Statement.readSelect := by
  refine (follows_of_preserves (leaves_keyword _)).bind fun _ => ?_
  refine (follows_of_preserves leaves_selection).bind fun columns => ?_
  refine (follows_of_preserves (leaves_next_ofExcept _)).bind fun _ => ?_
  refine (follows_of_preserves (leaves_next_ofExcept _)).bind fun table => ?_
  refine follows_condition.bind fun rows => ?_
  exact (follows_of_preserves leaves_finish).bind fun _ => follows_pure _

theorem follows_readUpdate : Follows (· <:+ stream) (readUpdate stream) Statement.readUpdate := by
  refine (follows_of_preserves (leaves_keyword _)).bind fun _ => ?_
  refine (follows_of_preserves (leaves_next_ofExcept _)).bind fun table => ?_
  refine (follows_of_preserves (leaves_keyword _)).bind fun _ => ?_
  refine (follows_of_preserves (leaves_list fun _ => leaves_assignment)).bind fun assignments => ?_
  refine follows_condition.bind fun rows => ?_
  exact (follows_of_preserves leaves_finish).bind fun _ => follows_pure _

theorem follows_readDelete : Follows (· <:+ stream) (readDelete stream) Statement.readDelete := by
  refine (follows_of_preserves (leaves_keyword _)).bind fun _ => ?_
  refine (follows_of_preserves (leaves_keyword _)).bind fun _ => ?_
  refine (follows_of_preserves (leaves_next_ofExcept _)).bind fun table => ?_
  refine follows_condition.bind fun rows => ?_
  exact (follows_of_preserves leaves_finish).bind fun _ => follows_pure _

theorem run_scan (form : Form) :
    (scan stream form).run.run stream = some (form.scan.run stream) := by
  cases form with
  | select => exact (follows_readSelect stream (List.suffix_refl stream)).1
  | update => exact (follows_readUpdate stream (List.suffix_refl stream)).1
  | delete => exact (follows_readDelete stream (List.suffix_refl stream)).1
  | use | createDatabase | createTable | insert | alter | drop | join => rfl

theorem run_ofTokens : (ofTokens stream).run = some (Statement.ofTokens stream) := by
  rw [ofTokens, Statement.ofTokens, Routine.scan, Attempt.run_bind, Attempt.run_ofExcept]
  cases Form.ofTokens stream with
  | error fault => rfl
  | ok form => exact congrArg (Option.map Prod.fst) (run_scan form)

/-- A text is read within its characters, its tokens and their bytes. -/
theorem run_statement (s : String) : (statement s).run = some (Statement.ofText s) :=
  run_bind_eq_some (run_tokens s) fun _ _ => run_ofTokens

end TextTables.Strict
