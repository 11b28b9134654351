import TextTables.Proofs.Session.Atomicity
import TextTables.Proofs.Strict.Statement
import TextTables.Proofs.Strict.Table
import TextTables.Proofs.Table.Matching

/-!
# Executing texts with strict accesses

The lines of a table are whatever the store has under its name.  A strict execution still has
a result for every text, and the same one, and what it shows has as many cells in each row as
headings.
-/

namespace TextTables.Strict

variable {σ : Type} [Store σ]

/-! ## Statements -/

/-- The lines of a table with a row more. -/
def linesAfterInsert (lines values : List String) : Answer (List String) :=
  match Table.ofLines? lines with
  | none => return [Row.toLine (← headerOf values)]
  | some found => return (← insert found values).toLines

/-- Adds a row to a table of the selected database. -/
def insertInto (name : String) (values : List String) : Strict (Session σ) Unit := do
  let lines ← linesAfterInsert (← ofAttempt (Action.lines name)) values
  ofAttempt (Action.put name lines)

/-- Changes a table of the selected database. -/
def changeTable (name : String) (f : Table → Answer Table) : Strict (Session σ) Unit := do
  let changed ← f (← ofAttempt (Action.table name))
  ofAttempt (Action.put name changed.toLines)

/-- Answers a query of one table. -/
def selectFrom (name : String) (columns : Selection) (condition : Option Condition) :
    Strict (Session σ) Table := do
  select (← ofAttempt (Action.table name)) columns condition

/-- Answers a query of two tables. -/
def joinBoth (left right leftColumn rightColumn : String) : Strict (Session σ) Table := do
  let leftLines ← ofAttempt (Action.lines left)
  let rightLines ← ofAttempt (Action.lines right)
  let tables ← Action.bothOf leftLines rightLines
  join tables.1 tables.2 left right leftColumn rightColumn

/-- What a statement does in a session.  The others access nothing. -/
def action : Statement → Strict (Session σ) Reply
  | .insert table values => do
    insertInto table values
    return .done
  | .select table columns condition => do
    return .rows (← selectFrom table columns condition)
  | .update table assignments condition => do
    changeTable table fun t => update t assignments condition
    return .done
  | .alter table change column => do
    changeTable table fun t => alter t change column
    return .done
  | .join left right leftColumn rightColumn => do
    return .rows (← joinBoth left right leftColumn rightColumn)
  | other => ofAttempt other.action

/-- Executes a statement. -/
def perform (s : Session σ) (statement : Statement) : Option (Reply × Session σ) := do
  match ← (action statement).run.run s with
  | (.ok reply, after) => return (reply, after)
  | (.error fault, after) => return (.refused fault, { after with selected := s.selected })

/-- Executes the text of a statement. -/
def execute (s : Session σ) (text : String) : Option (Reply × Session σ) :=
  if Text.allBlank text then some (.refused .emptyCommand, s)
  else do
    match ← (statement text).run with
    | .error fault => return (.refused fault, s)
    | .ok found => perform s found

/-- Executes texts one after another. -/
def executeAll (s : Session σ) : List String → Option (List Reply × Session σ)
  | [] => some ([], s)
  | text :: more => do
    let first ← execute s text
    let rest ← executeAll first.2 more
    return (first.1 :: rest.1, rest.2)

/-! ## The same results -/

/-- In every session a strict action does what an action does. -/
abbrev FollowsAlways {σ α : Type} (strict : Strict (Session σ) α) (plain : Action σ α) : Prop :=
  Follows (fun _ => True) strict plain

theorem followsAlways_ofAttempt {σ α : Type} (plain : Action σ α) :
    FollowsAlways (ofAttempt plain) plain :=
  follows_of_preserves fun _ _ => trivial

theorem run_linesAfterInsert (lines values : List String) :
    (linesAfterInsert lines values).run = some (Action.linesAfterInsert lines values) := by
  unfold linesAfterInsert Action.linesAfterInsert
  cases Table.ofLines? lines with
  | none => exact run_bind_eq_some (run_headerOf values) fun _ _ => rfl
  | some found => exact run_bind_eq_some (run_insert found values) fun _ _ => rfl

theorem follows_insertInto (name : String) (values : List String) :
    FollowsAlways (insertInto name values : Strict (Session σ) Unit)
      (Action.insert name values) := by
  refine (followsAlways_ofAttempt _).bind fun lines => ?_
  refine (follows_ofExcept (run_linesAfterInsert lines values)).bind fun after => ?_
  exact followsAlways_ofAttempt _

theorem follows_changeTable (name : String) {f : Table → Answer Table}
    {plain : Table → Except Fault Table} (h : ∀ t, (f t).run = some (plain t)) :
    FollowsAlways (changeTable name f : Strict (Session σ) Unit)
      (Action.changeTable name plain) := by
  refine (followsAlways_ofAttempt _).bind fun found => ?_
  refine (follows_ofExcept (h found)).bind fun changed => ?_
  exact followsAlways_ofAttempt _

theorem follows_selectFrom (name : String) (columns : Selection) (condition : Option Condition) :
    FollowsAlways (selectFrom name columns condition : Strict (Session σ) Table)
      (Action.select name columns condition) := by
  refine (followsAlways_ofAttempt _).bind fun found => ?_
  exact follows_ofExcept (run_select found columns condition)

theorem follows_joinBoth (left right leftColumn rightColumn : String) :
    FollowsAlways (joinBoth left right leftColumn rightColumn : Strict (Session σ) Table)
      (Action.join left right leftColumn rightColumn) := by
  refine (followsAlways_ofAttempt _).bind fun leftLines => ?_
  refine (followsAlways_ofAttempt _).bind fun rightLines => ?_
  refine (follows_ofExcept rfl).bind fun tables => ?_
  exact follows_ofExcept (run_join _ _ _ _ _ _)

theorem follows_action (statement : Statement) :
    FollowsAlways (action statement : Strict (Session σ) Reply) statement.action := by
  cases statement with
  | insert table values => exact (follows_insertInto table values).bind fun _ => follows_pure _
  | select table columns condition =>
      exact (follows_selectFrom table columns condition).bind fun _ => follows_pure _
  | update table assignments condition =>
      refine (follows_changeTable table fun t => ?_).bind fun _ => follows_pure _
      exact run_update t assignments condition
  | alter table change column =>
      refine (follows_changeTable table fun t => ?_).bind fun _ => follows_pure _
      exact run_alter t change column
  | join left right leftColumn rightColumn =>
      exact (follows_joinBoth left right leftColumn rightColumn).bind fun _ => follows_pure _
  | use | createDatabase | createTable | delete | dropTable | dropDatabase =>
      exact followsAlways_ofAttempt _

theorem perform_eq_some (s : Session σ) (statement : Statement) :
    perform s statement = some (s.perform statement) := by
  obtain ⟨hrun, _⟩ := follows_action statement s trivial
  rw [perform, hrun, Session.perform]
  obtain ⟨fault | reply, after⟩ := statement.action.run s
  · rfl
  · rfl

theorem execute_eq_some (s : Session σ) (text : String) :
    execute s text = some (s.execute text) := by
  unfold execute Session.execute
  split
  · rfl
  · rw [run_statement]
    cases Statement.ofText text with
    | error fault => rfl
    | ok found => exact perform_eq_some s found

theorem executeAll_eq_some (s : Session σ) (texts : List String) :
    executeAll s texts = some (s.executeAll texts) := by
  induction texts generalizing s with
  | nil => rfl
  | cons text more ih =>
      rw [executeAll, execute_eq_some, Option.bind_eq_bind, Option.bind_some, ih]
      rfl

/-! ## Rows that are shown -/

/-- Rows in the reply, if there are any, have a cell for each heading. -/
def IsEven (reply : Reply) : Prop :=
  ∀ found, reply = .rows found → ∀ row ∈ found.rows, row.length = found.header.length

theorem ensures_isEven (statement : Statement) :
    Attempt.Ensures (fun _ : Session σ => True) statement.action fun reply _ => IsEven reply := by
  have hdone : ∀ _ : Unit, Attempt.Ensures (fun _ : Session σ => True) (pure Reply.done)
      fun reply _ => IsEven reply :=
    fun _ => Attempt.ensures_pure fun _ _ => nofun
  have hrows : ∀ shown : Table, Attempt.Ensures
      (fun _ : Session σ => ∀ row ∈ shown.rows, row.length = shown.header.length)
      (pure (Reply.rows shown)) fun reply _ => IsEven reply := by
    refine fun shown => Attempt.ensures_pure fun _ hshown found heq => ?_
    cases heq
    exact hshown
  cases statement with
  | select table columns condition =>
      refine Attempt.Ensures.bind (Attempt.ensures_true.bind fun t => ?_) hrows
      exact Attempt.ensures_ofExcept fun found hfound _ _ => Table.length_of_select_eq_ok hfound
  | join left right leftColumn rightColumn =>
      refine Attempt.Ensures.bind (Attempt.ensures_true.bind fun leftLines => ?_) hrows
      refine Attempt.ensures_true.bind fun rightLines => ?_
      refine Attempt.ensures_true.bind fun tables => ?_
      exact Attempt.ensures_ofExcept fun found hfound _ _ => Table.length_of_join_eq_ok hfound
  | _ => exact Attempt.ensures_true.bind hdone

theorem isEven_execute (s : Session σ) (text : String) : IsEven (s.execute text).1 := by
  unfold Session.execute
  split
  · exact nofun
  split
  · exact nofun
  · next statement hread =>
      unfold Session.perform
      split
      · next reply after hrun => exact ensures_isEven statement s trivial reply after hrun
      · exact nofun

/-- **Every access is in range.**  Whatever the store holds, a text is executed with strict
accesses to the same reply and the same session: no place of a header or of a row, no part of
the tokens, of the text or of a literal is asked for that is not there.  And all rows that it is
answered with have as many cells as there are headings. -/
theorem execute_in_range (s : Session σ) (text : String) :
    execute s text = some (s.execute text) ∧
      ∀ found, (s.execute text).1 = .rows found →
        ∀ row ∈ found.rows, row.length = found.header.length :=
  ⟨execute_eq_some s text, isEven_execute s text⟩

/-- A row is longer than its header and another one shorter, and both are shown and changed. -/
theorem execute_in_range_ragged :
    let shown : Table := ⟨["c", "id"], [["x", "5"], ["NULL", "last"]]⟩
    (execute Session.ragged "SELECT c, id FROM t;").map Prod.fst = some (.rows shown) ∧
      (∀ row ∈ shown.rows, row.length = shown.header.length) ∧
      (execute Session.ragged "UPDATE t SET c = 'v' WHERE id == 'last';").map Prod.fst =
        some .done := by
  intro shown
  have hshown : (Session.ragged.execute "SELECT c, id FROM t;").1 = .rows shown := by
    decide +kernel
  have hdone : (Session.ragged.execute "UPDATE t SET c = 'v' WHERE id == 'last';").1 = .done := by
    decide +kernel
  obtain ⟨hselect, hwidth⟩ := execute_in_range Session.ragged "SELECT c, id FROM t;"
  obtain ⟨hupdate, _⟩ :=
    execute_in_range Session.ragged "UPDATE t SET c = 'v' WHERE id == 'last';"
  refine ⟨?_, hwidth shown hshown, ?_⟩
  · rw [hselect, Option.map_some, hshown]
  · rw [hupdate, Option.map_some, hdone]

end TextTables.Strict
