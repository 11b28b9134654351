import TextTables.Proofs.Strict.Statement

/-!
# Calls of routines one after another

Routines are called one after another on the tokens of one stream, also after calls that failed.
Every scan goes forward in the stream, so the tokens that are left are those behind some place,
and the place only moves on.  Every routine ends with the scan of the semicolon, so the first call
that succeeds leaves nothing for the calls after it.
-/

namespace TextTables.Strict

open Scan Statement

variable {α β : Type} {stream : List Token}

/-! ## What routines leave -/

theorem leaves_mark (category : Category) (text : String) : Leaves stream (mark category text) :=
  leaves_next_ofExcept _

theorem leaves_name : Leaves stream name :=
  leaves_next_ofExcept _

theorem leaves_item : Leaves stream item :=
  leaves_next_ofExcept _

theorem leaves_condition : Leaves stream Scan.condition :=
  fun tokens htokens => (follows_condition tokens htokens).2

theorem leaves_newColumn (before : List String) : Leaves stream (newColumn before) := by
  refine leaves_name.bind fun column => ?_
  split
  · exact leaves_fail _
  · exact leaves_pure _

theorem leaves_newColumns : Leaves stream newColumns := by
  refine (leaves_accept _ _).bind fun found => ?_
  cases found with
  | true =>
      refine (leaves_list leaves_newColumn).bind fun columns => ?_
      exact (leaves_mark _ _).bind fun _ => leaves_pure _
  | false => exact leaves_pure _

theorem leaves_alteration : Leaves stream alteration := by
  refine (leaves_accept _ _).bind fun adds => ?_
  cases adds with
  | true => exact leaves_pure _
  | false =>
      refine (leaves_accept _ _).bind fun drops => ?_
      cases drops with
      | true => exact leaves_pure _
      | false => exact leaves_fail _

theorem leaves_dropped : Leaves stream dropped := by
  refine (leaves_next_ofExcept _).bind fun object => ?_
  split
  · exact leaves_name.bind fun _ => leaves_pure _
  · split
    · exact leaves_name.bind fun _ => leaves_pure _
    · exact leaves_fail _

/-- The last token is a semicolon. -/
def EndsInSemicolon (tokens : List Token) : Prop :=
  ∃ token, tokens.getLast? = some token ∧ token.is .symbol ";"

theorem EndsInSemicolon.of_suffix {tokens : List Token} (h : EndsInSemicolon tokens)
    (hsuffix : tokens <:+ stream) : EndsInSemicolon stream := by
  obtain ⟨token, hlast, hsemicolon⟩ := h
  obtain ⟨before, rfl⟩ := hsuffix
  refine ⟨token, ?_, hsemicolon⟩
  rw [List.getLast?_append, hlast, Option.some_or]

theorem EndsInSemicolon.length_pos {tokens : List Token} (h : EndsInSemicolon tokens) :
    0 < tokens.length := by
  obtain ⟨token, hlast, _⟩ := h
  exact List.length_pos_of_mem (List.mem_of_getLast? hlast)

/-- On a part that the stream ends with, the scan leaves such a part.  When it succeeds nothing is
left, and the last token is a semicolon. -/
structure Ends (stream : List Token) (scan : Scan α) : Prop where
  leaves : Leaves stream scan
  finishes : scan.Ensures (· <:+ stream) fun _ left => left = [] ∧ EndsInSemicolon stream

theorem Ends.bind {first : Scan α} {next : α → Scan β} (hfirst : Leaves stream first)
    (hnext : ∀ a, Ends stream (next a)) : Ends stream (first >>= next) where
  leaves := hfirst.bind fun a => (hnext a).leaves
  finishes := by
    refine Attempt.Ensures.bind (R := fun _ left => left <:+ stream) ?_ fun a => (hnext a).finishes
    intro tokens htokens a left hrun
    have hleft := hfirst tokens htokens
    rwa [hrun] at hleft

/-- What every routine ends with. -/
theorem ends_finish_pure (a : α) : Ends stream (finish >>= fun _ => pure a) where
  leaves := leaves_finish.bind fun _ => leaves_pure a
  finishes := by
    intro tokens htokens b left hrun
    obtain ⟨_, reached, hfinish, hpure⟩ := Attempt.run_bind_eq_ok.mp hrun
    cases hpure
    by_cases hahead : Ahead .symbol ";" tokens
    · obtain ⟨token, more, rfl, hsemicolon⟩ := hahead
      rw [finish, Attempt.run_bind, run_accept_of_is hsemicolon] at hfinish
      cases more with
      | nil =>
          cases hfinish
          exact ⟨rfl, .of_suffix ⟨token, rfl, hsemicolon⟩ htokens⟩
      | cons extra more => cases hfinish
    · rw [finish, Attempt.run_bind, run_accept_of_not_ahead hahead] at hfinish
      cases hfinish

theorem ends_form (form : Form) : Ends stream form.scan := by
  cases form with
  | use =>
      refine .bind (leaves_keyword _) fun _ => ?_
      exact .bind leaves_name fun _ => ends_finish_pure _
  | createDatabase =>
      refine .bind (leaves_keyword _) fun _ => ?_
      refine .bind (leaves_keyword _) fun _ => ?_
      exact .bind leaves_name fun _ => ends_finish_pure _
  | createTable =>
      refine .bind (leaves_keyword _) fun _ => ?_
      refine .bind (leaves_keyword _) fun _ => ?_
      refine .bind leaves_name fun table => ?_
      exact .bind leaves_newColumns fun _ => ends_finish_pure _
  | insert =>
      refine .bind (leaves_keyword _) fun _ => ?_
      refine .bind (leaves_keyword _) fun _ => ?_
      refine .bind leaves_name fun table => ?_
      refine .bind (leaves_keyword _) fun _ => ?_
      refine .bind (leaves_mark _ _) fun _ => ?_
      refine .bind (leaves_list fun _ => leaves_item) fun values => ?_
      exact .bind (leaves_mark _ _) fun _ => ends_finish_pure _
  | select =>
      refine .bind (leaves_keyword _) fun _ => ?_
      refine .bind leaves_selection fun columns => ?_
      refine .bind (leaves_mark _ _) fun _ => ?_
      refine .bind leaves_name fun table => ?_
      exact .bind leaves_condition fun _ => ends_finish_pure _
  | update =>
      refine .bind (leaves_keyword _) fun _ => ?_
      refine .bind leaves_name fun table => ?_
      refine .bind (leaves_keyword _) fun _ => ?_
      refine .bind (leaves_list fun _ => leaves_assignment) fun assignments => ?_
      exact .bind leaves_condition fun _ => ends_finish_pure _
  | delete =>
      refine .bind (leaves_keyword _) fun _ => ?_
      refine .bind (leaves_keyword _) fun _ => ?_
      refine .bind leaves_name fun table => ?_
      exact .bind leaves_condition fun _ => ends_finish_pure _
  | alter =>
      refine .bind (leaves_keyword _) fun _ => ?_
      refine .bind (leaves_keyword _) fun _ => ?_
      refine .bind leaves_name fun table => ?_
      refine .bind leaves_alteration fun change => ?_
      exact .bind leaves_name fun _ => ends_finish_pure _
  | drop =>
      refine .bind (leaves_keyword _) fun _ => ?_
      exact .bind leaves_dropped fun _ => ends_finish_pure _
  | join =>
      refine .bind (leaves_keyword _) fun _ => ?_
      refine .bind leaves_name fun left => ?_
      refine .bind (leaves_mark _ _) fun _ => ?_
      refine .bind leaves_name fun right => ?_
      refine .bind (leaves_mark _ _) fun _ => ?_
      refine .bind leaves_name fun leftColumn => ?_
      refine .bind (leaves_mark _ _) fun _ => ?_
      exact .bind leaves_name fun _ => ends_finish_pure _

/-- The beginning that tells the form may be that of any stream. -/
theorem ends_routine (whole : List Token) (routine : Routine) :
    Ends stream (routine.scan whole) := by
  cases routine with
  | any => exact .bind (leaves_ofExcept _) ends_form
  | single form => exact ends_form form

/-! ## Calls with strict accesses -/

/-- Runs a routine on the tokens that are left of `stream`. -/
def call (stream : List Token) : Routine → Strict (List Token) Statement
  | .any => do
    let form ← (Attempt.ofExcept (Form.ofTokens stream) : Scan Form)
    scan stream form
  | .single form => scan stream form

theorem follows_scan (form : Form) : Follows (· <:+ stream) (scan stream form) form.scan := by
  cases form with
  | select => exact follows_readSelect
  | update => exact follows_readUpdate
  | delete => exact follows_readDelete
  | use | createDatabase | createTable | insert | alter | drop | join =>
      exact follows_of_preserves (ends_form _).leaves

theorem follows_call (routine : Routine) :
    Follows (· <:+ stream) (call stream routine) (routine.scan stream) := by
  cases routine with
  | any => exact (follows_of_preserves (leaves_ofExcept _)).bind follows_scan
  | single form => exact follows_scan form

end TextTables.Strict

namespace TextTables.Statement.Routine

open Strict

variable (stream : List Token)

/-! ## Calls in a row -/

/-- What calls of routines leave of the tokens that are left of `stream`. -/
def leavesAll (calls : List Routine) (tokens : List Token) : List Token :=
  calls.foldl (fun left routine => ((routine.scan stream).run left).2) tokens

/-- What calls of routines leave of the whole stream. -/
def leftAfter (calls : List Routine) : List Token :=
  leavesAll stream calls stream

/-- The answer of a call that comes after others. -/
def answerAfter (calls : List Routine) (routine : Routine) : Except Fault Statement :=
  ((routine.scan stream).run (leftAfter stream calls)).1

/-- The place in the stream where calls of routines end. -/
def placeAfter (calls : List Routine) : Nat :=
  stream.length - (leftAfter stream calls).length

variable {stream}

theorem scanAll_cons (routine : Routine) (more : List Routine) (tokens : List Token) :
    scanAll stream (routine :: more) tokens =
      ((routine.scan stream).run tokens).1 ::
        scanAll stream more ((routine.scan stream).run tokens).2 := rfl

theorem scanAll_append_singleton (calls : List Routine) (routine : Routine)
    (tokens : List Token) :
    scanAll stream (calls ++ [routine]) tokens =
      scanAll stream calls tokens ++
        [((routine.scan stream).run (leavesAll stream calls tokens)).1] := by
  induction calls generalizing tokens with
  | nil => rfl
  | cons first more ih => rw [List.cons_append, scanAll_cons, ih, scanAll_cons]; rfl

theorem run_routine_suffix (routine : Routine) (tokens : List Token) :
    ((routine.scan stream).run tokens).2 <:+ tokens :=
  (ends_routine stream routine).leaves tokens (List.suffix_refl tokens)

/-- A routine that succeeds has taken everything, a semicolon last. -/
theorem run_routine_eq_ok {routine : Routine} {tokens : List Token} {statement : Statement}
    (h : ((routine.scan stream).run tokens).1 = .ok statement) :
    ((routine.scan stream).run tokens).2 = [] ∧ EndsInSemicolon tokens :=
  (ends_routine stream routine).finishes tokens (List.suffix_refl tokens) statement _
    (Prod.ext h rfl)

theorem leavesAll_suffix (calls : List Routine) (tokens : List Token) :
    leavesAll stream calls tokens <:+ tokens := by
  induction calls generalizing tokens with
  | nil => exact List.suffix_refl tokens
  | cons routine more ih => exact (ih _).trans (run_routine_suffix routine tokens)

theorem leftAfter_suffix (calls : List Routine) : leftAfter stream calls <:+ stream :=
  leavesAll_suffix calls stream

theorem leftAfter_append_singleton (calls : List Routine) (routine : Routine) :
    leftAfter stream (calls ++ [routine]) =
      ((routine.scan stream).run (leftAfter stream calls)).2 := by
  rw [leftAfter, leavesAll, List.foldl_append]
  rfl

theorem placeAfter_le_append_singleton (calls : List Routine) (routine : Routine) :
    placeAfter stream calls ≤ placeAfter stream (calls ++ [routine]) := by
  have hleft : leftAfter stream (calls ++ [routine]) <:+ leftAfter stream calls := by
    rw [leftAfter_append_singleton]
    exact run_routine_suffix routine _
  exact Nat.sub_le_sub_left hleft.length_le stream.length

/-- Where nothing is left, no call succeeds. -/
theorem countP_isOk_scanAll_nil (calls : List Routine) :
    (scanAll stream calls []).countP Except.isOk = 0 := by
  induction calls with
  | nil => rfl
  | cons routine more ih =>
      have hleft : ((routine.scan stream).run []).2 = [] :=
        List.suffix_nil.mp (run_routine_suffix routine [])
      rw [scanAll_cons, hleft, List.countP_cons, ih]
      cases hanswer : ((routine.scan stream).run []).1 with
      | error fault => rfl
      | ok statement =>
          exact absurd (run_routine_eq_ok hanswer).2.length_pos (Nat.lt_irrefl 0)

theorem countP_isOk_scanAll_le_one (calls : List Routine) (tokens : List Token) :
    (scanAll stream calls tokens).countP Except.isOk ≤ 1 := by
  induction calls generalizing tokens with
  | nil => exact Nat.zero_le 1
  | cons routine more ih =>
      rw [scanAll_cons, List.countP_cons]
      cases hanswer : ((routine.scan stream).run tokens).1 with
      | error fault => exact ih _
      | ok statement =>
          -- The call took everything, so those after it find nothing.
          rw [(run_routine_eq_ok hanswer).1, countP_isOk_scanAll_nil]
          exact Nat.le_refl 1

/-- **Calls go forward and succeed once.** After any calls of routines on one stream, also after
calls that failed, the tokens that are left are those behind a place in the stream.  One more call
does not move the place back, and it ends in the same way when a clause may only be taken between
two places of the stream that are in order.  If it succeeds, it moves the place on to the end of
the stream, and the token in front of that place is a semicolon.  So one of the calls succeeds at
most. -/
theorem calls_go_forward (stream : List Token) (calls : List Routine) :
    leftAfter stream calls = stream.drop (placeAfter stream calls) ∧
    placeAfter stream calls ≤ stream.length ∧
    (∀ routine : Routine,
      placeAfter stream calls ≤ placeAfter stream (calls ++ [routine]) ∧
      scanAll stream (calls ++ [routine]) stream =
        scanAll stream calls stream ++ [answerAfter stream calls routine] ∧
      (Strict.call stream routine).run.run (leftAfter stream calls) =
        some (answerAfter stream calls routine, leftAfter stream (calls ++ [routine])) ∧
      ∀ statement, answerAfter stream calls routine = .ok statement →
        placeAfter stream calls < placeAfter stream (calls ++ [routine]) ∧
        placeAfter stream (calls ++ [routine]) = stream.length ∧
        ∃ token, stream[placeAfter stream (calls ++ [routine]) - 1]? = some token ∧
          token.is .symbol ";") ∧
    (scanAll stream calls stream).countP Except.isOk ≤ 1 := by
  have hsuffix : leftAfter stream calls <:+ stream := leftAfter_suffix calls
  refine ⟨List.suffix_iff_eq_drop.mp hsuffix, Nat.sub_le _ _, fun routine => ?_,
    countP_isOk_scanAll_le_one calls stream⟩
  refine ⟨placeAfter_le_append_singleton calls routine,
    scanAll_append_singleton calls routine stream, ?_, fun statement hok => ?_⟩
  · rw [leftAfter_append_singleton]
    exact (follows_call routine _ hsuffix).1
  · obtain ⟨hnothing, hsemicolon⟩ := run_routine_eq_ok hok
    rw [← leftAfter_append_singleton] at hnothing
    have hend : placeAfter stream (calls ++ [routine]) = stream.length := by
      rw [placeAfter, hnothing, List.length_nil, Nat.sub_zero]
    have hleft := hsemicolon.length_pos
    have hwithin := hsuffix.length_le
    obtain ⟨token, hlast, his⟩ := hsemicolon.of_suffix hsuffix
    refine ⟨?_, hend, token, ?_, his⟩
    · rw [hend, placeAfter]
      omega
    · rwa [hend, ← List.getLast?_eq_getElem?]

/-- A statement behind a word that does not belong to it. -/
def misplaced : List Token :=
  [⟨.keyword, "INSERT"⟩, ⟨.keyword, "USE"⟩, ⟨.identifier, "a"⟩, ⟨.symbol, ";"⟩]

theorem calls_go_forward_misplaced :
    answerAfter misplaced [.single .insert] (.single .use) = .ok (.use "a") ∧
    placeAfter misplaced [.single .insert] = 1 ∧
    placeAfter misplaced [.single .insert, .single .use] = 4 ∧
    (scanAll misplaced [.any, .single .use, .any] misplaced).countP Except.isOk ≤ 1 := by
  have hok : answerAfter misplaced [.single .insert] (.single .use) = .ok (.use "a") := by cbv
  obtain ⟨_, _, _, hforward⟩ :=
    (calls_go_forward misplaced [.single .insert]).2.2.1 (.single .use)
  exact ⟨hok, by cbv, (hforward _ hok).2.1, (calls_go_forward misplaced _).2.2.2⟩

end TextTables.Statement.Routine
