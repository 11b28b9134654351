import TextTables.Proofs.Session.Effects
import TextTables.Proofs.Statement.Case
import TextTables.Store.Catalog

/-!
# Sessions up to the case of their letters

A catalog keeps databases and tables under the lower case of their names, and columns are
found in any case.  So a statement with small letters does what the statement does, as far
as nothing that it writes or answers repeats it as it is written: it succeeds if the
statement does and leaves the same catalog, and at most the name of the database that is
selected is written with other letters.
-/

namespace TextTables

theorem storedName_small (name : String) : storedName (Text.small name) = storedName name :=
  Text.lower_small name

/-! ## Tables -/

namespace Table

theorem columnIndex?_small (t : Table) (column : String) :
    t.columnIndex? (Text.small column) = t.columnIndex? column :=
  Row.columnIndex?_small t.header column

theorem matchesRow_small (t : Table) (condition : Option Condition) :
    t.matchesRow (condition.map Condition.small) = t.matchesRow condition := by
  funext row
  cases condition with
  | none => rfl
  | some condition => exact Condition.holds_small t.header row condition

theorem toOption_places_small (t : Table) (columns : Selection) :
    (t.places columns.small).toOption = (t.places columns).toOption := by
  cases columns with
  | all => rfl
  | columns names =>
      have hplaces : (t.places (.columns (names.map Text.small))).toOption =
          (t.places (.columns names)).toOption.map (List.map id) := by
        refine toOption_mapM_map (fun column => ?_) names
        rw [columnIndex?_small]
        cases t.columnIndex? column with
        | none => rfl
        | some place => rfl
      rw [List.map_id_fun, Option.map_id_fun] at hplaces
      exact hplaces

theorem toOption_select_small (t : Table) (columns : Selection) (condition : Option Condition) :
    (t.select columns.small (condition.map Condition.small)).toOption =
      (t.select columns condition).toOption := by
  rw [select, toOption_bind, toOption_places_small, matchesRow_small, select, toOption_bind]

theorem delete_small (t : Table) (condition : Option Condition) :
    t.delete (condition.map Condition.small) = t.delete condition := by
  cases condition with
  | none => rfl
  | some condition => simp only [delete, Option.map_some, Condition.holds_small]

/-- The rows of two tables are paired in any case of the names of the columns.  The header
repeats the names of the tables as they are written. -/
theorem toOption_rows_join_small (left right : Table)
    (leftName rightName leftColumn rightColumn : String) :
    ((left.join right (Text.small leftName) (Text.small rightName) (Text.small leftColumn)
      (Text.small rightColumn)).map rows).toOption =
      ((left.join right leftName rightName leftColumn rightColumn).map rows).toOption := by
  unfold join
  rw [columnIndex?_small, columnIndex?_small]
  cases left.columnIndex? leftColumn with
  | none => rfl
  | some leftKey =>
      cases right.columnIndex? rightColumn with
      | none => rfl
      | some rightKey => rfl

end Table

/-! ## Catalogs -/

namespace Catalog

variable (c : Catalog) (database name : String)

theorem database?_small : c.database? (Text.small database) = c.database? database := by
  rw [database?, storedName_small, database?]

theorem put_small (tables : Dict (List String)) :
    c.put (Text.small database) tables = c.put database tables := by
  rw [put, storedName_small, put]

theorem read_small : c.read (Text.small database) (Text.small name) = c.read database name := by
  rw [read, table?, database?_small, storedName_small, read, table?]

theorem write_small (lines : List String) :
    (c.write (Text.small database) (Text.small name) lines).map Except.toOption id =
      (c.write database name lines).map Except.toOption id := by
  unfold write
  rw [database?_small, storedName_small]
  cases c.database? database with
  | none => rfl
  | some tables =>
      simp only [put_small]
      split
      · rfl
      · rfl

theorem dropTable_small :
    (c.dropTable (Text.small database) (Text.small name)).map Except.toOption id =
      (c.dropTable database name).map Except.toOption id := by
  unfold dropTable
  rw [database?_small, storedName_small]
  cases c.database? database with
  | none => rfl
  | some tables =>
      simp only [put_small]
      split
      · rfl
      · rfl

theorem databaseExists_small :
    c.databaseExists (Text.small database) = c.databaseExists database := by
  rw [databaseExists, storedName_small, databaseExists]

theorem dropDatabase_small :
    (c.dropDatabase (Text.small database)).map Except.toOption id =
      (c.dropDatabase database).map Except.toOption id := by
  unfold dropDatabase
  rw [databaseExists_small, storedName_small]
  split
  · rfl
  · rfl

theorem toOption_tables_small :
    (c.tables (Text.small database)).toOption = (c.tables database).toOption := by
  unfold tables
  rw [database?_small]
  cases c.database? database with
  | none => rfl
  | some tables => rfl

end Catalog

/-! ## Sessions -/

namespace Session

variable {σ : Type}

/-- A session with small letters in the name of the selected database. -/
def small (s : Session σ) : Session σ :=
  { s with selected := s.selected.map Text.small }

theorem dropKnown_small (s : Session σ) (database table : String) :
    s.small.dropKnown (Text.small database) (Text.small table) =
      (s.dropKnown database table).small := by
  unfold dropKnown
  rw [storedName_small]
  simp only [small, Text.sameWord_small_right]
  cases s.known.get? (storedName database) with
  | none => rfl
  | some tables => rfl

theorem dropDatabase_small (s : Session σ) (database : String) :
    s.small.dropDatabase (Text.small database) = (s.dropDatabase database).small := by
  rw [dropDatabase_eq, dropDatabase_eq, storedName_small]
  cases hselected : s.selected with
  | none => simp only [small, hselected, Option.map_none, Option.filter_none]
  | some current =>
      simp only [small, hselected, Option.map_some, Option.filter_some, Text.sameWord_small,
        Text.sameWord_small_right]
      split
      · rfl
      · rfl

end Session

/-! ## Actions -/

namespace Action

open Attempt

variable {σ α β : Type}

/-- In the session with small letters, an action does what another one does. -/
abbrev Mirrors (f : α → β) (first : Action σ α) (image : Action σ β) : Prop :=
  Attempt.Mirrors Session.small f first image

theorem mirrors_current : Mirrors Text.small (current : Action σ String) current := by
  apply mirrors_state_bind
  rintro ⟨store, selected, known⟩
  cases selected with
  | none => exact mirrors_fail _ _
  | some database => exact mirrors_pure Text.small database

theorem mirrors_change {operation image : σ → Outcome σ}
    (h : ∀ store, (image store).map Except.toOption id =
      (operation store).map Except.toOption id) :
    Mirrors id (change operation) (change image) := by
  constructor
  intro s
  obtain ⟨hanswer, hstore⟩ := Prod.mk.inj (h s.store)
  apply Prod.ext
  · change (image s.store).1.toOption = (operation s.store).1.toOption.map id
    rw [hanswer, Option.map_id_fun, id]
  · change { s.small with store := id (image s.store).2 } =
      Session.small { s with store := (operation s.store).2 }
    rw [hstore]
    rfl

theorem mirrors_lines (name : String) :
    Mirrors id (lines name : Action Catalog (List String)) (lines (Text.small name)) := by
  apply mirrors_current.bind
  intro database
  apply mirrors_state_bind
  intro s
  have hread : Store.read s.small.store (Text.small database) (Text.small name) =
      Store.read s.store database name := s.store.read_small database name
  rw [hread]
  exact mirrors_pure id _

theorem mirrors_table (name : String) :
    Mirrors id (table name : Action Catalog Table) (table (Text.small name)) := by
  apply (mirrors_lines name).bind
  intro found
  apply mirrors_ofExcept
  unfold tableOf
  rw [id]
  cases Table.ofLines? found with
  | none => rfl
  | some t => rfl

theorem mirrors_put (name : String) (written : List String) :
    Mirrors id (put name written : Action Catalog Unit) (put (Text.small name) written) := by
  apply mirrors_current.bind
  intro database
  exact mirrors_change fun store => store.write_small database name written

theorem mirrors_changeTable (name : String) (f : Table → Except Fault Table) :
    Mirrors id (changeTable name f : Action Catalog Unit) (changeTable (Text.small name) f) := by
  apply (mirrors_table name).bind
  intro found
  apply (mirrors_ofExcept_same (f found)).bind
  intro changed
  exact mirrors_put name changed.toLines

theorem mirrors_delete (name : String) (condition : Option Condition) :
    Mirrors id (changeTable name fun t => .ok (t.delete condition) : Action Catalog Unit)
      (changeTable (Text.small name) fun t => .ok (t.delete (condition.map Condition.small))) := by
  simp only [Table.delete_small]
  exact mirrors_changeTable name _

theorem mirrors_use (database : String) :
    Mirrors id (use database : Action Catalog Unit) (use (Text.small database)) := by
  apply mirrors_state_bind
  intro s
  have hexists : Store.databaseExists s.small.store (Text.small database) =
      Store.databaseExists s.store database := s.store.databaseExists_small database
  have htables : (Store.tables s.small.store (Text.small database)).toOption =
      (Store.tables s.store database).toOption.map id := by
    rw [Option.map_id_fun]
    exact s.store.toOption_tables_small database
  rw [hexists]
  apply mirrors_ite _ (mirrors_fail _ _)
  apply (mirrors_ofExcept htables).bind
  intro tables
  apply mirrors_modify
  intro t
  rw [storedName_small]
  rfl

theorem mirrors_dropTable (name : String) :
    Mirrors id (dropTable name : Action Catalog Unit) (dropTable (Text.small name)) := by
  apply mirrors_current.bind
  intro database
  apply (mirrors_change fun store => store.dropTable_small database name).bind
  intro _
  exact mirrors_modify fun s => s.dropKnown_small database name

theorem mirrors_dropDatabase (database : String) :
    Mirrors id (dropDatabase database : Action Catalog Unit)
      (dropDatabase (Text.small database)) := by
  apply (mirrors_change fun store => store.dropDatabase_small database).bind
  intro _
  exact mirrors_modify fun s => s.dropDatabase_small database

theorem mirrors_select (name : String) (columns : Selection) (condition : Option Condition) :
    Mirrors id (select name columns condition : Action Catalog Table)
      (select (Text.small name) columns.small (condition.map Condition.small)) := by
  apply (mirrors_table name).bind
  intro found
  apply mirrors_ofExcept
  rw [Option.map_id_fun]
  exact found.toOption_select_small columns condition

/-- Only the rows: the header repeats the names of the tables. -/
theorem mirrors_rows_join (left right leftColumn rightColumn : String) :
    Mirrors id
      (Table.rows <$> (join left right leftColumn rightColumn : Action Catalog Table))
      (Table.rows <$> join (Text.small left) (Text.small right) (Text.small leftColumn)
        (Text.small rightColumn)) := by
  simp only [join, map_bind, map_ofExcept]
  apply (mirrors_lines left).bind
  intro leftLines
  apply (mirrors_lines right).bind
  intro rightLines
  apply (mirrors_ofExcept_same (bothOf leftLines rightLines)).bind
  rintro ⟨leftTable, rightTable⟩
  apply mirrors_ofExcept
  rw [Option.map_id_fun]
  exact leftTable.toOption_rows_join_small rightTable left right leftColumn rightColumn

end Action

/-! ## Replies -/

/-- The rows found, where a query was answered. -/
def Reply.rows? : Reply → Option (List (List String))
  | rows found => some found.rows
  | done | refused _ => none

namespace Session

variable {σ γ : Type}

/-- What two replies, each with the session after it, have in common: both accept or both
refuse, those that accept look the same, and the sessions are the same up to the case of
the letters in the name of the selected database. -/
structure Alike (look : Reply → γ) (first second : Reply × Session σ) : Prop where
  isAccepted_eq : second.1.isAccepted = first.1.isAccepted
  look_eq : first.1.isAccepted = true → look second.1 = look first.1
  store_eq : second.2.store = first.2.store
  known_eq : second.2.known = first.2.known
  selected_eq : second.2.selected.map Text.small = first.2.selected.map Text.small

theorem Alike.of_common {look : Reply → γ} {first second third : Reply × Session σ}
    (h : Alike look first third) (h' : Alike look second third) : Alike look first second where
  isAccepted_eq := h'.isAccepted_eq.symm.trans h.isAccepted_eq
  look_eq haccepted := by
    have hsecond : second.1.isAccepted = true := by
      rw [← h'.isAccepted_eq, h.isAccepted_eq, haccepted]
    exact (h'.look_eq hsecond).symm.trans (h.look_eq haccepted)
  store_eq := h'.store_eq.symm.trans h.store_eq
  known_eq := h'.known_eq.symm.trans h.known_eq
  selected_eq := h'.selected_eq.symm.trans h.selected_eq

variable [Store σ]

/-- If one action mirrors the other, as far as replies are looked at, both are replied to
alike. -/
theorem alike_perform_small {look : Reply → γ} {statement image : Statement}
    (h : Action.Mirrors id (look <$> (statement.action : Action σ Reply))
      (look <$> image.action)) (s : Session σ) :
    Alike look (s.perform statement) (s.small.perform image) := by
  have htwice : Text.small ∘ Text.small = Text.small := funext Text.small_small
  have hsmall : ∀ selected : Option String,
      (selected.map Text.small).map Text.small = selected.map Text.small := by
    intro selected
    rw [Option.map_map, htwice]
  have haccepted := Statement.ensures_action (σ := σ) statement s trivial
  have haccepted' := Statement.ensures_action (σ := σ) image s.small trivial
  have hrun := h.run_eq s
  rw [Attempt.run_map, Attempt.run_map] at hrun
  unfold perform
  cases hfirst : (Statement.action statement : Action σ Reply).run s with
  | mk answer after =>
      cases hsecond : (Statement.action image : Action σ Reply).run s.small with
      | mk answer' after' =>
          rw [hfirst, hsecond] at hrun
          obtain ⟨hanswer, hafter⟩ := Prod.mk.inj hrun
          cases hafter
          cases answer with
          | error fault =>
              cases answer' with
              | error fault' => exact ⟨rfl, nofun, rfl, rfl, hsmall s.selected⟩
              | ok reply' => cases hanswer
          | ok reply =>
              cases answer' with
              | error fault' => cases hanswer
              | ok reply' =>
                  have hreply := haccepted reply after hfirst
                  have hreply' := haccepted' reply' after.small hsecond
                  refine ⟨hreply'.trans hreply.symm, fun _ => ?_, rfl, rfl, hsmall after.selected⟩
                  exact Option.some.inj hanswer

end Session

namespace Statement

open Attempt

/-- What replies to one statement in two cases have in common, each with the session after
it.  The header that answers a join repeats the names of the tables, so only the rows are
compared.  Nothing is said of statements that add or change what is kept. -/
def AnsweredAlike (first second : Reply × Session Catalog) : Statement → Prop
  | select _ _ _ | delete _ _ | use _ | dropTable _ | dropDatabase _ =>
    Session.Alike id first second
  | join _ _ _ _ => Session.Alike Reply.rows? first second
  | createDatabase _ | createTable _ _ | insert _ _ | update _ _ _ | alter _ _ _ => True

theorem answeredAlike_small_iff {first second : Reply × Session Catalog} (statement : Statement) :
    statement.small.AnsweredAlike first second ↔ statement.AnsweredAlike first second := by
  cases statement with
  | _ => rfl

theorem AnsweredAlike.of_common {first second third : Reply × Session Catalog}
    {statement : Statement} (h : statement.AnsweredAlike first third)
    (h' : statement.AnsweredAlike second third) : statement.AnsweredAlike first second := by
  cases statement with
  | select | delete | use | dropTable | dropDatabase | join => exact Session.Alike.of_common h h'
  | createDatabase | createTable | insert | update | alter => exact trivial

/-- A statement with small letters, in the session with small letters, is answered as the
statement is. -/
theorem answeredAlike_perform_small (s : Session Catalog) (statement : Statement) :
    statement.AnsweredAlike (s.perform statement) (s.small.perform statement.small) := by
  have hid : ∀ {image : Statement}, Action.Mirrors id (statement.action : Action Catalog Reply)
      image.action → Session.Alike id (s.perform statement) (s.small.perform image) := by
    intro image h
    apply Session.alike_perform_small
    rwa [id_map, id_map]
  cases statement with
  | select table columns condition =>
      exact hid ((Action.mirrors_select table columns condition).bind fun _ => mirrors_pure id _)
  | delete table condition =>
      exact hid ((Action.mirrors_delete table condition).bind fun _ => mirrors_pure id _)
  | use database => exact hid ((Action.mirrors_use database).bind fun _ => mirrors_pure id _)
  | dropTable table => exact hid ((Action.mirrors_dropTable table).bind fun _ => mirrors_pure id _)
  | dropDatabase database =>
      exact hid ((Action.mirrors_dropDatabase database).bind fun _ => mirrors_pure id _)
  | join left right leftColumn rightColumn =>
      -- The header is dropped before the actions are compared.
      have hrows : ∀ left right leftColumn rightColumn,
          Reply.rows? <$> (join left right leftColumn rightColumn).action (σ := Catalog) =
            (Table.rows <$> Action.join left right leftColumn rightColumn) >>=
              fun found => pure (some found) := by
        intro left right leftColumn rightColumn
        simp only [action, map_bind, map_pure, bind_map_left, Reply.rows?]
      apply Session.alike_perform_small
      rw [small, hrows, hrows]
      apply (Action.mirrors_rows_join left right leftColumn rightColumn).bind
      intro found
      exact mirrors_pure id (some found)
  | createDatabase | createTable | insert | update | alter => exact trivial

end Statement

namespace Session

theorem execute_of_ofText_error {text : String} {fault : Fault}
    (h : Statement.ofText text = .error fault) (s : Session Catalog) :
    (s.execute text).1.isAccepted = false ∧ (s.execute text).2 = s := by
  unfold execute
  rw [h]
  split
  · exact ⟨rfl, rfl⟩
  · exact ⟨rfl, rfl⟩

/-- **Texts that are the same up to case do the same.**  Whatever a session over a catalog
is, let two texts differ in the case of the letters `A` to `Z` only, also inside of
literals.  Then neither of them is a statement, and both are refused, or both are
statements of one kind with the same names up to case.  Of two queries, deletions,
selections of a database, or removals of a table or a database both are accepted or both
refused, the catalog is the same one after either, and the selection is the same up to
case.  If they are accepted, the replies are equal, and to joins the rows in them are. -/
theorem execute_alike_of_folded_eq (s : Session Catalog) {text other : String}
    (h : Text.folded text = Text.folded other) :
    ((∃ fault, Statement.ofText text = .error fault) ∧
        (∃ fault, Statement.ofText other = .error fault) ∧
        (s.execute text).1.isAccepted = false ∧ (s.execute other).1.isAccepted = false ∧
        (s.execute text).2 = s ∧ (s.execute other).2 = s) ∨
      ∃ statement same, Statement.ofText text = .ok statement ∧
        Statement.ofText other = .ok same ∧ same.small = statement.small ∧
        statement.AnsweredAlike (s.execute text) (s.execute other) := by
  rcases Statement.ofText_of_small_eq (Text.small_eq_small_iff.mpr h) with
    ⟨fault, cause, htext, hother⟩ | ⟨statement, same, htext, hother, hsame⟩
  · left
    obtain ⟨hrefused, hs⟩ := execute_of_ofText_error htext s
    obtain ⟨hrefused', hs'⟩ := execute_of_ofText_error hother s
    exact ⟨⟨fault, htext⟩, ⟨cause, hother⟩, hrefused, hrefused', hs, hs'⟩
  · right
    -- Each of them is compared with the one statement that has small letters.
    have hfirst := statement.answeredAlike_perform_small s
    have hsecond := same.answeredAlike_perform_small s
    rw [← Statement.answeredAlike_small_iff, hsame, Statement.answeredAlike_small_iff] at hsecond
    refine ⟨statement, same, htext, hother, hsame, ?_⟩
    rw [execute_of_ofText htext, execute_of_ofText hother]
    exact hfirst.of_common hsecond

theorem execute_alike_of_folded_eq_like :
    Text.folded "SELECT Name FROM T WHERE name LIKE 'an';" =
        Text.folded "select NAME from t where NAME like 'AN';" ∧
      ∃ s : Session Catalog, s.selected = some "D" ∧
        (s.execute "SELECT Name FROM T WHERE name LIKE 'an';").1 =
          .rows ⟨["name"], [["Ann"], ["Jan"]]⟩ ∧
        (s.execute "select NAME from t where NAME like 'AN';").1 =
          .rows ⟨["name"], [["Ann"], ["Jan"]]⟩ := by
  have hfolded : Text.folded "SELECT Name FROM T WHERE name LIKE 'an';" =
      Text.folded "select NAME from t where NAME like 'AN';" := by
    decide +kernel
  let s : Session Catalog :=
    ⟨Catalog.empty.put "d" (Dict.empty.insert "t" ["id\tname", "1\tAnn", "2\tBob", "3\tJan"]),
      some "D", .empty⟩
  have hread : Statement.ofText "SELECT Name FROM T WHERE name LIKE 'an';" =
      .ok (.select "T" (.columns ["Name"]) (some (.test "name" "LIKE" "an"))) := by
    decide +kernel
  have hrows : (s.execute "SELECT Name FROM T WHERE name LIKE 'an';").1 =
      .rows ⟨["name"], [["Ann"], ["Jan"]]⟩ := by
    decide +kernel
  refine ⟨hfolded, s, rfl, hrows, ?_⟩
  rcases s.execute_alike_of_folded_eq hfolded with
    ⟨⟨fault, hfault⟩, _⟩ | ⟨statement, same, htext, _, _, halike⟩
  · rw [hread] at hfault
    cases hfault
  · rw [hread] at htext
    cases htext
    have hlook := halike.look_eq (congrArg Reply.isAccepted hrows)
    exact hlook.trans hrows

end Session

end TextTables
