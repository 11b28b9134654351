import TextTables.Proofs.Session.Selection
import TextTables.Proofs.Statement.Composed

/-!
# Starting again

A session over a store may end, and another one begin on what it left.  The new session
has the same store, selects the same database by its name, and knows of its tables what
the store lists, not what was followed.  No statement asks what is known, so from then on
nobody can tell the two sessions apart.
-/

namespace TextTables

open Attempt (run_bind run_state_bind)

variable {σ α β : Type}

/-- Two sessions with the same store and the same database selected.  What they know of its
tables may differ. -/
structure Session.Agrees (s t : Session σ) : Prop where
  store : s.store = t.store
  selected : s.selected = t.selected

/-- Sessions that agree are answered alike, and agree afterwards. -/
def Action.Heedless (action : Action σ α) : Prop :=
  ∀ s t : Session σ, s.Agrees t →
    (action.run s).1 = (action.run t).1 ∧ (action.run s).2.Agrees (action.run t).2

/-! ## Actions -/

namespace Action.Heedless

theorem ofExcept (answer : Except Fault α) : Heedless (Attempt.ofExcept answer : Action σ α) :=
  fun _ _ hagrees => ⟨rfl, hagrees⟩

theorem pure (a : α) : Heedless (Pure.pure a : Action σ α) :=
  fun _ _ hagrees => ⟨rfl, hagrees⟩

theorem modify {g : Session σ → Session σ} (h : ∀ s t, s.Agrees t → (g s).Agrees (g t)) :
    Heedless (Attempt.modify g) :=
  fun s t hagrees => ⟨rfl, h s t hagrees⟩

theorem bind {first : Action σ α} {next : α → Action σ β} (h : first.Heedless)
    (hnext : ∀ a, (next a).Heedless) : (first >>= next).Heedless := by
  intro s t hagrees
  obtain ⟨hanswer, hreached⟩ := h s t hagrees
  rw [run_bind, run_bind]
  cases hs : first.run s with
  | mk answer reached =>
      cases ht : first.run t with
      | mk answer' reached' =>
          rw [hs, ht] at hanswer hreached
          obtain rfl : answer = answer' := hanswer
          cases answer with
          | error fault => exact ⟨rfl, hreached⟩
          | ok a => exact hnext a _ _ hreached

/-- The session may be looked at, as long as what is known makes no difference. -/
theorem state_bind {next : Session σ → Action σ α}
    (hsame : ∀ s t : Session σ, s.Agrees t → next s = next t)
    (h : ∀ seen, (next seen).Heedless) : Heedless (Attempt.state >>= next) := by
  intro s t hagrees
  rw [run_state_bind, run_state_bind, hsame s t hagrees]
  exact h t s t hagrees

theorem current : Heedless (Action.current : Action σ String) := by
  refine state_bind (fun s t hagrees => by rw [hagrees.selected]) fun seen => ?_
  cases seen.selected with
  | none => exact ofExcept (.error _)
  | some database => exact pure database

theorem change (operation : σ → Outcome σ) : Heedless (Action.change operation) := by
  rintro ⟨store, selected, known⟩ ⟨_, _, known'⟩ ⟨rfl, rfl⟩
  exact ⟨rfl, rfl, rfl⟩

variable [Store σ]

theorem lines (name : String) : Heedless (Action.lines name : Action σ (List String)) :=
  current.bind fun _ =>
    state_bind (fun _ _ hagrees => by rw [hagrees.store]) fun _ => pure _

theorem table (name : String) : Heedless (Action.table name : Action σ Table) :=
  (lines name).bind fun _ => ofExcept _

theorem put (name : String) (written : List String) :
    Heedless (Action.put name written : Action σ Unit) :=
  current.bind fun _ => change _

theorem use (database : String) : Heedless (Action.use database : Action σ Unit) := by
  refine state_bind (fun s t hagrees => by rw [hagrees.store]) fun seen => ?_
  split
  · refine (ofExcept _).bind fun tables => modify fun s t hagrees => ?_
    exact ⟨hagrees.store, rfl⟩
  · exact ofExcept (.error _)

theorem createTable (name : String) (columns : List String) :
    Heedless (Action.createTable name columns : Action σ Unit) := by
  refine current.bind fun database => (change _).bind fun _ => modify fun s t hagrees => ?_
  exact ⟨hagrees.store, hagrees.selected⟩

theorem dropTable (name : String) : Heedless (Action.dropTable name : Action σ Unit) := by
  refine current.bind fun database => (change _).bind fun _ => modify fun s t hagrees => ?_
  constructor
  · simpa only [Session.store_dropKnown] using hagrees.store
  · simpa only [Session.selected_dropKnown] using hagrees.selected

theorem dropDatabase (database : String) :
    Heedless (Action.dropDatabase database : Action σ Unit) := by
  refine (change _).bind fun _ => modify fun s t hagrees => ?_
  rw [Session.dropDatabase_eq, Session.dropDatabase_eq, hagrees.store, hagrees.selected]
  exact ⟨rfl, rfl⟩

theorem changeTable (name : String) (f : Table → Except Fault Table) :
    Heedless (Action.changeTable name f : Action σ Unit) :=
  (table name).bind fun _ => (ofExcept _).bind fun _ => put name _

theorem insert (name : String) (values : List String) :
    Heedless (Action.insert name values : Action σ Unit) :=
  (lines name).bind fun _ => (ofExcept _).bind fun _ => put name _

theorem select (name : String) (columns : Selection) (condition : Option Condition) :
    Heedless (Action.select name columns condition : Action σ Table) :=
  (table name).bind fun _ => ofExcept _

theorem join (left right leftColumn rightColumn : String) :
    Heedless (Action.join left right leftColumn rightColumn : Action σ Table) :=
  (lines left).bind fun _ => (lines right).bind fun _ =>
    (ofExcept _).bind fun _ => ofExcept _

/-- No statement asks what is known. -/
theorem action (statement : Statement) : Heedless (statement.action : Action σ Reply) := by
  cases statement with
  | use database => exact (use database).bind fun _ => pure _
  | createDatabase database => exact (change _).bind fun _ => pure _
  | createTable name columns => exact (createTable name columns).bind fun _ => pure _
  | insert name values => exact (insert name values).bind fun _ => pure _
  | select name columns condition => exact (select name columns condition).bind fun _ => pure _
  | update name assignments condition => exact (changeTable name _).bind fun _ => pure _
  | delete name condition => exact (changeTable name _).bind fun _ => pure _
  | alter name change column => exact (changeTable name _).bind fun _ => pure _
  | dropTable name => exact (dropTable name).bind fun _ => pure _
  | dropDatabase database => exact (dropDatabase database).bind fun _ => pure _
  | join left right leftColumn rightColumn =>
      exact (join left right leftColumn rightColumn).bind fun _ => pure _

end Action.Heedless

namespace Session

/-- The text that selects the selected database; none where nothing is selected. -/
def reselection (s : Session σ) : List String :=
  match s.selected with
  | some database => ["USE " ++ database ++ ";"]
  | none => []

/-- What is selected has a name that a text can spell. -/
def SelectsName (s : Session σ) : Prop :=
  ∀ database, s.selected = some database → Token.IsNameWord database

theorem selectsName_start (store : σ) : (start store).SelectsName :=
  fun _ h => nomatch h

variable [Store σ] {s t : Session σ}

/-! ## Runs of sessions that agree -/

theorem Agrees.perform (h : s.Agrees t) (statement : Statement) :
    (s.perform statement).1 = (t.perform statement).1 ∧
      (s.perform statement).2.Agrees (t.perform statement).2 := by
  obtain ⟨hanswer, hreached⟩ := Action.Heedless.action statement s t h
  unfold Session.perform
  cases hs : (Statement.action statement : Action σ Reply).run s with
  | mk answer after =>
      cases ht : (Statement.action statement : Action σ Reply).run t with
      | mk answer' after' =>
          rw [hs, ht] at hanswer hreached
          obtain rfl : answer = answer' := hanswer
          cases answer with
          | ok reply => exact ⟨rfl, hreached⟩
          | error fault => exact ⟨rfl, hreached.store, h.selected⟩

theorem Agrees.execute (h : s.Agrees t) (text : String) :
    (s.execute text).1 = (t.execute text).1 ∧
      (s.execute text).2.Agrees (t.execute text).2 := by
  unfold Session.execute
  split
  · exact ⟨rfl, h⟩
  · cases Statement.ofText text with
    | error fault => exact ⟨rfl, h⟩
    | ok statement => exact h.perform statement

theorem Agrees.executeAll (h : s.Agrees t) (texts : List String) :
    (s.executeAll texts).1 = (t.executeAll texts).1 ∧
      (s.executeAll texts).2.Agrees (t.executeAll texts).2 := by
  induction texts generalizing s t with
  | nil => exact ⟨rfl, h⟩
  | cons text more ih =>
      obtain ⟨hreply, hafter⟩ := h.execute text
      obtain ⟨hreplies, hlast⟩ := ih hafter
      rw [executeAll_cons, executeAll_cons, hreply, hreplies]
      exact ⟨rfl, hlast⟩

/-! ## Selecting again what was selected -/

/-- A database that is there and can be listed is selected. -/
theorem perform_use {database : String} {tables : List String}
    (hexists : Store.databaseExists s.store database = true)
    (htables : Store.tables s.store database = .ok tables) :
    s.perform (.use database) =
      (.done, ⟨s.store, some database, s.known.insert (storedName database) tables⟩) := by
  have hrun : (Action.use database).run s =
      (.ok (), ⟨s.store, some database, s.known.insert (storedName database) tables⟩) := by
    rw [Action.use, run_state_bind, if_pos hexists, htables]
    rfl
  rw [Session.perform, Statement.action, run_bind, hrun]
  rfl

theorem perform_use_of_missing {database : String}
    (h : Store.databaseExists s.store database = false) :
    s.perform (.use database) = (.refused (.databaseMissing database), s) := by
  have hrun : (Action.use database).run s = (.error (.databaseMissing database), s) := by
    rw [Action.use, run_state_bind, h]
    rfl
  rw [Session.perform, Statement.action, run_bind, hrun]

/-- A database is selected by its name. -/
theorem execute_use {database : String} {tables : List String}
    (hname : Token.IsNameWord database)
    (hexists : Store.databaseExists s.store database = true)
    (htables : Store.tables s.store database = .ok tables) :
    s.execute ("USE " ++ database ++ ";") =
      (.done, ⟨s.store, some database, s.known.insert (storedName database) tables⟩) := by
  rw [execute_of_ofText (Statement.ofText_use hname), perform_use hexists htables]

theorem Effect.selectsName {statement : Statement} (h : s.Effect statement t)
    (hnames : ∀ name ∈ statement.names, Token.IsNameWord name) (hs : s.SelectsName) :
    t.SelectsName := by
  intro database hselected
  rw [h.selected] at hselected
  cases statement with
  | use other =>
      cases hselected
      exact hnames database (by simp [Statement.names])
  | dropDatabase other => exact hs database (Option.filter_eq_some_iff.mp hselected).1
  | _ => exact hs database hselected

theorem SelectsName.execute [Store.Transactional σ] (h : s.SelectsName) (text : String) :
    (s.execute text).2.SelectsName := by
  rcases s.execute_cases text with ⟨_, hsame⟩ | ⟨statement, hread, _, heffect⟩
  · rwa [hsame]
  · exact heffect.selectsName (Statement.wellRead_of_ofText hread).names h

theorem SelectsName.executeAll [Store.Transactional σ] (h : s.SelectsName)
    (texts : List String) : (s.executeAll texts).2.SelectsName :=
  executeAll_induction (P := SelectsName) (fun text _ _ hs => hs.execute text) h

/-- A session that starts on what another one left selects what that one had selected. -/
theorem KnowsSelected.reselect (hknows : s.KnowsSelected) (hname : s.SelectsName) :
    ((start s.store).executeAll s.reselection).1 = s.reselection.map (fun _ => Reply.done) ∧
      ((start s.store).executeAll s.reselection).2.Agrees s := by
  cases hselected : s.selected with
  | none =>
      rw [reselection, hselected]
      exact ⟨rfl, rfl, hselected.symm⟩
  | some database =>
      obtain ⟨hexists, _, tables, htables, _⟩ := hknows database hselected
      rw [reselection, hselected]
      have hexecute := execute_use (s := start s.store) (hname database hselected) hexists htables
      simp only [executeAll_cons]
      rw [hexecute]
      exact ⟨rfl, rfl, hselected.symm⟩

theorem KnowsSelected.mem_knownTables_iff (hs : s.KnowsSelected) (ht : t.KnowsSelected)
    (h : s.Agrees t) (name : String) : name ∈ s.knownTables ↔ name ∈ t.knownTables := by
  cases hselected : s.selected with
  | none => rw [knownTables, knownTables, ← h.selected, hselected]
  | some database =>
      obtain ⟨_, _, tables, htables, hmem⟩ := hs database hselected
      obtain ⟨_, _, tables', htables', hmem'⟩ := ht database (h.selected.symm.trans hselected)
      rw [← h.store, htables] at htables'
      cases htables'
      rw [hmem, hmem']

/-- **Nobody notices a new start.**  A run of texts over a catalog that was empty may be
broken off.  A new session over what is kept then selects what was selected, and from
there on gives the replies to all further texts, keeps the store, has the selection and
knows the tables that the old session would have given, kept, had and known. -/
theorem executeAll_after_restart (texts : List String) :
    let s : Session Catalog := ((start Catalog.empty).executeAll texts).2
    let restarted := (start s.store).executeAll s.reselection
    restarted.1 = s.reselection.map (fun _ => Reply.done) ∧
      ∀ more, (restarted.2.executeAll more).1 = (s.executeAll more).1 ∧
        (restarted.2.executeAll more).2.store = (s.executeAll more).2.store ∧
        (restarted.2.executeAll more).2.selected = (s.executeAll more).2.selected ∧
        ∀ name, name ∈ (restarted.2.executeAll more).2.knownTables ↔
          name ∈ (s.executeAll more).2.knownTables := by
  intro s restarted
  have hfollowing : s.IsFollowing :=
    (isFollowing_start (Catalog.isSmall_callAll [])).executeAll texts
  have hname : s.SelectsName := (selectsName_start Catalog.empty).executeAll texts
  obtain ⟨hreplies, hagrees⟩ := hfollowing.knowsSelected.reselect hname
  have hrestarted : restarted.2.IsFollowing :=
    (isFollowing_start hfollowing.isSmall).executeAll s.reselection
  refine ⟨hreplies, fun more => ?_⟩
  obtain ⟨hmore, hlast⟩ := hagrees.executeAll more
  refine ⟨hmore, hlast.store, hlast.selected, fun name => ?_⟩
  exact (hrestarted.executeAll more).knowsSelected.mem_knownTables_iff
    (hfollowing.executeAll more).knowsSelected hlast name

end Session

end TextTables
