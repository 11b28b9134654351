import TextTables.Proofs.Session.Effects
import TextTables.Proofs.Statement.Filtering
import TextTables.Proofs.Table.Matching

/-!
# Statements that change a table

A statement that changes a table and is carried out reads the table from its lines, changes
it as a value, and writes the lines of the changed table in their place.  This holds over
every store and of every table, however its lines were made.
-/

namespace TextTables

variable {σ : Type} [Store σ]

namespace Session

/-- A text that changes a table and is carried out rewrites it. -/
theorem exists_rewrites_of_isAccepted {s : Session σ} {text name : String} {statement : Statement}
    {f : Table → Except Fault Table} (hread : Statement.ofText text = .ok statement)
    (haction : Statement.action (σ := σ) statement =
      Action.changeTable name f >>= fun _ => pure Reply.done)
    (haccepted : (s.execute text).1.isAccepted = true) :
    ∃ t changed, f t = .ok changed ∧ s.Rewrites (s.execute text).2 name t changed := by
  rw [execute_of_ofText hread] at haccepted ⊢
  unfold perform at haccepted ⊢
  rw [haction] at haccepted ⊢
  split at haccepted
  · next reply after hrun =>
      obtain ⟨_, hrun⟩ := exists_of_run_reply hrun
      exact Action.exists_rewrites_of_run_changeTable hrun
  · cases haccepted

end Session

namespace Statement

open Grammar (IsWhere Word)

/-- **A condition is what stands behind `WHERE`.**  A query, an update or a removal that is
read from tokens with a `WHERE` has a condition exactly if something stands between the first
`WHERE` and the semicolon at the end, and the condition is the one that is written there.
The operator of each of its tests is the text of the one token, whichever it is, between the
column and the literal, and a test whose operator is no sign of comparison holds for no row.
So an update whose clause is not empty keeps every row for which its condition is false. -/
theorem condition_of_where {text : String} {tokens : List Token} {statement : Statement}
    {found : Option Condition} (htokens : Token.ofText text = .ok tokens)
    (hread : ofText text = .ok statement) (hfilter : statement.filter? = some found)
    (hwhere : ∃ token ∈ tokens, Word "WHERE" token) :
    ∃ clause, IsWhere tokens clause ∧ (found = none ↔ clause = []) ∧
      ∀ condition, found = some condition →
        Condition.Spelled .disjunction clause condition ∧
        (∀ leaf ∈ condition.tests,
          (∃ column sign literal, [column, sign, literal] <:+: clause ∧
            leaf.Stands column sign literal) ∧
          (¬Comparison.IsSign leaf.sign → ∀ header row,
            (Condition.test leaf.column leaf.sign leaf.literal).holds header row = false)) ∧
        ∀ (σ : Type) [Store σ] (s : Session σ) table assignments,
          statement = .update table assignments (some condition) →
          (s.execute text).1.isAccepted = true →
          ∃ t changed, s.Rewrites (s.execute text).2 table t changed ∧
            changed.header = t.header ∧
            List.Forall₂ (fun row after => condition.holds t.header row = false → after = row)
              t.rows changed.rows := by
  obtain ⟨form, hspells⟩ := ((ofText_eq_ok_iff_spells htokens).1 statement).mp hread
  obtain ⟨clause, hclause, hcondition⟩ := hspells.exists_isWhere hfilter hwhere
  refine ⟨clause, hclause, ?_, ?_⟩
  · rcases hcondition with ⟨rfl, rfl⟩ | ⟨condition, rfl, writing, rfl, _⟩
    · exact iff_of_true rfl rfl
    · exact iff_of_false (Option.some_ne_none _) writing.tokens_ne_nil
  · intro condition hfound
    obtain ⟨_, rfl⟩ | ⟨_, rfl, hspelled⟩ := hcondition
    · cases hfound
    cases hfound
    refine ⟨hspelled, fun leaf hleaf => ⟨?_, ?_⟩, ?_⟩
    · obtain ⟨writing, rfl, rfl⟩ := hspelled
      exact writing.exists_stands hleaf
    · exact fun hsign header row => Condition.holds_test_eq_false_of_not_isSign hsign _ _ _
    · intro σ _ s table assignments hstatement haccepted
      subst hstatement
      obtain ⟨t, changed, hchanged, hrewrites⟩ :=
        Session.exists_rewrites_of_isAccepted hread rfl haccepted
      exact ⟨t, changed, hrewrites, Table.update_spares hchanged⟩

/-- A condition with two tests.  The row that meets neither of them is kept. -/
theorem condition_of_where_two_tests :
    let text := "UPDATE t SET c = 1 WHERE c == 2 OR c like 'x';"
    let condition := Condition.either (.test "c" "==" "2") (.test "c" "like" "x")
    let s : Session Catalog := ⟨⟨Dict.empty.insert "d" (Dict.empty.insert "t"
      ["id\tc", "1\t2", "2\ty"])⟩, some "d", .empty⟩
    ofText text = .ok (.update "t" [("c", "1")] (some condition)) ∧
      (∃ clause, Condition.Spelled .disjunction clause condition) ∧
      ∃ t changed, s.Rewrites (s.execute text).2 "t" t changed ∧
        List.Forall₂ (fun row after => condition.holds t.header row = false → after = row)
          t.rows changed.rows := by
  intro text condition s
  have htokens : Token.ofText text = .ok [⟨.keyword, "UPDATE"⟩, ⟨.identifier, "t"⟩,
      ⟨.keyword, "SET"⟩, ⟨.identifier, "c"⟩, ⟨.symbol, "="⟩, ⟨.number, "1"⟩, ⟨.keyword, "WHERE"⟩,
      ⟨.identifier, "c"⟩, ⟨.operator, "=="⟩, ⟨.number, "2"⟩, ⟨.logicalOperator, "OR"⟩,
      ⟨.identifier, "c"⟩, ⟨.identifier, "like"⟩, ⟨.string, "'x'"⟩, ⟨.symbol, ";"⟩] := by
    decide +kernel
  have hread : ofText text = .ok (.update "t" [("c", "1")] (some condition)) := by
    decide +kernel
  have haccepted : (s.execute text).1.isAccepted = true := by decide +kernel
  obtain ⟨clause, _, _, hcondition⟩ := condition_of_where htokens hread rfl
    ⟨⟨.keyword, "WHERE"⟩, by simp, by decide⟩
  obtain ⟨hspelled, _, hupdate⟩ := hcondition condition rfl
  obtain ⟨t, changed, hrewrites, _, hkept⟩ := hupdate Catalog s "t" _ rfl haccepted
  exact ⟨hread, ⟨clause, hspelled⟩, t, changed, hrewrites, hkept⟩

/-- Where nothing stands behind `WHERE` there is no condition, and an update changes every
row.  Where a comma stands between a column and a literal, it is the operator of a test. -/
theorem condition_of_where_empty :
    ofText "UPDATE t SET c = 1 WHERE ;" = .ok (.update "t" [("c", "1")] none) ∧
      (⟨["id", "c"], [["1", "x"], ["2", "y"]]⟩ : Table).update [("c", "1")] none =
        .ok ⟨["id", "c"], [["1", "1"], ["2", "1"]]⟩ ∧
      ofText "DELETE FROM t WHERE c , 1;" = .ok (.delete "t" (some (.test "c" "," "1"))) ∧
      ¬Comparison.IsSign "," := by
  decide +kernel

end Statement

end TextTables
