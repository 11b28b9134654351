import TextTables.Proofs.Session.Atomicity
import TextTables.Proofs.Statement.Admissible

/-!
# Sessions over stores that act alike

Statements use a store only through its operations.  So where a store is kept in
another one whose operations do the same, a session over the other one answers in the
same words and leaves the store that keeps what the first session leaves.
-/

namespace TextTables

open Attempt (run_bind)

/-- What a store keeps, kept in another store: there the operations on names that fit do
the same.  Nothing is said about reading. -/
structure Store.ActsAlike {σ τ : Type} [Store σ] [Store τ] (f : σ → τ)
    (Fits : String → Prop) (store : σ) : Prop where
  write : ∀ database table lines, Fits database → Fits table →
    Store.write (f store) database table lines =
      (Store.write store database table lines).map id f
  createTable : ∀ database table header, Fits database → Fits table →
    Store.createTable (f store) database table header =
      (Store.createTable store database table header).map id f
  dropTable : ∀ database table, Fits database → Fits table →
    Store.dropTable (f store) database table = (Store.dropTable store database table).map id f
  createDatabase : ∀ database, Fits database →
    Store.createDatabase (f store) database = (Store.createDatabase store database).map id f
  databaseExists : ∀ database, Fits database →
    Store.databaseExists (f store) database = Store.databaseExists store database
  dropDatabase : ∀ database, Fits database →
    Store.dropDatabase (f store) database = (Store.dropDatabase store database).map id f
  tables : ∀ database, Fits database → Store.tables (f store) database = Store.tables store database

/-- Tables of a store are read alike where it is kept. -/
def Store.ReadsAlike {σ τ : Type} [Store σ] [Store τ] (f : σ → τ) (Fits : String → Prop)
    (store : σ) : Prop :=
  ∀ database table, Fits database → Fits table →
    Store.read (f store) database table = Store.read store database table

variable {σ τ α β : Type}

namespace Session

/-- The session that keeps its store elsewhere. -/
def keptIn (f : σ → τ) (s : Session σ) : Session τ :=
  ⟨f s.store, s.selected, s.known⟩

theorem keptIn_addKnown (f : σ → τ) (s : Session σ) (database table : String) :
    (s.addKnown database table).keptIn f = (s.keptIn f).addKnown database table := rfl

theorem keptIn_dropKnown (f : σ → τ) (s : Session σ) (database table : String) :
    (s.dropKnown database table).keptIn f = (s.keptIn f).dropKnown database table := by
  have hknown : (s.keptIn f).known = s.known := rfl
  unfold dropKnown
  rw [hknown]
  cases s.known.get? (storedName database) with
  | none => rfl
  | some tables => rfl

theorem keptIn_dropDatabase (f : σ → τ) (s : Session σ) (database : String) :
    (s.dropDatabase database).keptIn f = (s.keptIn f).dropDatabase database := by
  have hselected : (s.keptIn f).selected = s.selected := rfl
  unfold dropDatabase
  simp only [hselected]
  cases s.selected with
  | none => rfl
  | some selected =>
      simp only
      split
      · rfl
      · rfl

end Session

/-! ## Actions -/

/-- From a session, one action does what another one does where the store is kept. -/
def Commutes (f : σ → τ) (first : Action σ α) (second : Action τ α) (s : Session σ) : Prop :=
  second.run (s.keptIn f) = (first.run s).map id (Session.keptIn f)

namespace Commutes

variable {f : σ → τ} {s : Session σ}

theorem ofExcept (answer : Except Fault α) :
    Commutes f (Attempt.ofExcept answer) (Attempt.ofExcept answer) s := rfl

theorem pure (a : α) : Commutes f (Pure.pure a) (Pure.pure a) s := rfl

theorem bind {first : Action σ α} {second : Action τ α} {next : α → Action σ β}
    {further : α → Action τ β} (h : Commutes f first second s)
    (hnext : ∀ a, (first.run s).1 = .ok a → Commutes f (next a) (further a) (first.run s).2) :
    Commutes f (first >>= next) (second >>= further) s := by
  unfold Commutes at h hnext ⊢
  rw [run_bind, run_bind, h]
  cases hrun : first.run s with
  | mk answer reached =>
      rw [hrun] at hnext
      cases answer with
      | error fault => rfl
      | ok a => exact hnext a rfl

/-- What only looks at the state is followed by something in the same state. -/
theorem bind_readOnly {first : Action σ α} {second : Action τ α} {next : α → Action σ β}
    {further : α → Action τ β} (h : Commutes f first second s) (hread : first.ReadOnly)
    (hnext : ∀ a, (first.run s).1 = .ok a → Commutes f (next a) (further a) s) :
    Commutes f (first >>= next) (second >>= further) s := by
  refine h.bind fun a ha => ?_
  rw [hread s]
  exact hnext a ha

theorem change {operation : σ → Outcome σ} {image : τ → Outcome τ}
    (h : image (f s.store) = (operation s.store).map id f) :
    Commutes f (Action.change operation) (Action.change image) s := by
  unfold Commutes
  change ((image (f s.store)).1, Session.mk (image (f s.store)).2 s.selected s.known) = _
  rw [h]
  rfl

theorem modify {g : Session σ → Session σ} {image : Session τ → Session τ}
    (h : image (s.keptIn f) = (g s).keptIn f) :
    Commutes f (Attempt.modify g) (Attempt.modify image) s := by
  unfold Commutes
  rw [Attempt.run_modify, h]
  rfl

theorem current : Commutes f Action.current Action.current s := by
  have hselected : (s.keptIn f).selected = s.selected := rfl
  unfold Commutes Action.current
  rw [Attempt.run_state_bind, Attempt.run_state_bind, hselected]
  cases s.selected with
  | none => rfl
  | some database => rfl

/-- A change of the store below the current database, and then of what is known. -/
theorem current_change_modify {operation : String → σ → Outcome σ}
    {image : String → τ → Outcome τ} {g : String → Session σ → Session σ}
    {remembered : String → Session τ → Session τ}
    {Fits : String → Prop} (hs : ∀ database, s.selected = some database → Fits database)
    (hchange : ∀ database, Fits database →
      image database (f s.store) = (operation database s.store).map id f)
    (hknown : ∀ database s, (g database s).keptIn f = remembered database (s.keptIn f)) :
    Commutes f
      (Action.current >>= fun database =>
        Action.change (operation database) >>= fun _ => Attempt.modify (g database))
      (Action.current >>= fun database =>
        Action.change (image database) >>= fun _ => Attempt.modify (remembered database)) s := by
  refine current.bind_readOnly Action.readOnly_current fun database hdatabase => ?_
  have hfits := hs database (Action.selected_of_current hdatabase)
  refine (change (hchange database hfits)).bind fun _ _ => ?_
  exact modify (hknown database _).symm

variable [Store σ] [Store τ] {Fits : String → Prop}

section

variable (hs : ∀ database, s.selected = some database → Fits database)

include hs

theorem lines (hread : Store.ReadsAlike f Fits s.store) {name : String} (hname : Fits name) :
    Commutes f (Action.lines name) (Action.lines name) s := by
  refine current.bind_readOnly Action.readOnly_current fun database hdatabase => ?_
  have hfits := hs database (Action.selected_of_current hdatabase)
  unfold Commutes
  rw [Attempt.run_state_bind, Attempt.run_state_bind]
  change (Except.ok (Store.read (f s.store) database name), s.keptIn f) = _
  rw [hread database name hfits hname]
  rfl

theorem table (hread : Store.ReadsAlike f Fits s.store) {name : String} (hname : Fits name) :
    Commutes f (Action.table name) (Action.table name) s :=
  (lines hs hread hname).bind_readOnly (Action.readOnly_lines name) fun _ _ => ofExcept _

theorem put (hstore : Store.ActsAlike f Fits s.store) {name : String} (hname : Fits name)
    (written : List String) :
    Commutes f (Action.put name written) (Action.put name written) s := by
  refine current.bind_readOnly Action.readOnly_current fun database hdatabase => ?_
  have hfits := hs database (Action.selected_of_current hdatabase)
  exact change (hstore.write database name written hfits hname)

theorem createTable (hstore : Store.ActsAlike f Fits s.store) {name : String}
    (hname : Fits name) (columns : List String) :
    Commutes f (Action.createTable name columns) (Action.createTable name columns) s :=
  current_change_modify hs
    (fun database hdatabase => hstore.createTable database name _ hdatabase hname)
    fun database s => Session.keptIn_addKnown f s database name

theorem dropTable (hstore : Store.ActsAlike f Fits s.store) {name : String}
    (hname : Fits name) :
    Commutes f (Action.dropTable name) (Action.dropTable name) s :=
  current_change_modify hs
    (fun database hdatabase => hstore.dropTable database name hdatabase hname)
    fun database s => Session.keptIn_dropKnown f s database name

theorem changeTable (hstore : Store.ActsAlike f Fits s.store)
    (hread : Store.ReadsAlike f Fits s.store) {name : String} (hname : Fits name)
    (g : Table → Except Fault Table) :
    Commutes f (Action.changeTable name g) (Action.changeTable name g) s := by
  refine (table hs hread hname).bind_readOnly (Action.readOnly_table name) fun found _ => ?_
  refine (ofExcept (g found)).bind_readOnly (Attempt.readOnly_ofExcept _) fun changed _ => ?_
  exact put hs hstore hname changed.toLines

theorem insert (hstore : Store.ActsAlike f Fits s.store)
    (hread : Store.ReadsAlike f Fits s.store) {name : String} (hname : Fits name)
    (values : List String) :
    Commutes f (Action.insert name values) (Action.insert name values) s := by
  refine (lines hs hread hname).bind_readOnly (Action.readOnly_lines name) fun found _ => ?_
  refine (ofExcept _).bind_readOnly (Attempt.readOnly_ofExcept _) fun written _ => ?_
  exact put hs hstore hname written

theorem select (hread : Store.ReadsAlike f Fits s.store) {name : String} (hname : Fits name)
    (columns : Selection) (condition : Option Condition) :
    Commutes f (Action.select name columns condition) (Action.select name columns condition) s :=
  (table hs hread hname).bind_readOnly (Action.readOnly_table name) fun _ _ => ofExcept _

theorem join (hread : Store.ReadsAlike f Fits s.store) {left right : String}
    (hleft : Fits left) (hright : Fits right) (leftColumn rightColumn : String) :
    Commutes f (Action.join left right leftColumn rightColumn)
      (Action.join left right leftColumn rightColumn) s := by
  refine (lines hs hread hleft).bind_readOnly (Action.readOnly_lines left) fun _ _ => ?_
  refine (lines hs hread hright).bind_readOnly (Action.readOnly_lines right) fun _ _ => ?_
  refine (ofExcept _).bind_readOnly (Attempt.readOnly_ofExcept _) fun _ _ => ?_
  exact ofExcept _

end

theorem use (hstore : Store.ActsAlike f Fits s.store) {database : String}
    (hdatabase : Fits database) : Commutes f (Action.use database) (Action.use database) s := by
  have hkept : (s.keptIn f).store = f s.store := rfl
  unfold Commutes Action.use
  rw [Attempt.run_state_bind, Attempt.run_state_bind, hkept,
    hstore.databaseExists database hdatabase, hstore.tables database hdatabase]
  cases Store.databaseExists s.store database with
  | false => rfl
  | true =>
      cases Store.tables s.store database with
      | error fault => rfl
      | ok tables => rfl

theorem dropDatabase (hstore : Store.ActsAlike f Fits s.store) {database : String}
    (hdatabase : Fits database) :
    Commutes f (Action.dropDatabase database) (Action.dropDatabase database) s := by
  refine (change (hstore.dropDatabase database hdatabase)).bind fun _ _ => ?_
  exact modify (Session.keptIn_dropDatabase f _ database).symm

/-- Every statement does the same where the store is kept, as long as tables are read
alike there. -/
theorem action (hs : ∀ database, s.selected = some database → Fits database)
    (hstore : Store.ActsAlike f Fits s.store) (hread : Store.ReadsAlike f Fits s.store)
    {statement : Statement} (hnames : ∀ name ∈ statement.names, Fits name) :
    Commutes f statement.action statement.action s := by
  cases statement with
  | use database =>
      exact (use hstore (hnames database (by simp [Statement.names]))).bind fun _ _ => pure _
  | createDatabase database =>
      have hdatabase : Fits database := hnames database (by simp [Statement.names])
      exact (change (hstore.createDatabase database hdatabase)).bind fun _ _ => pure _
  | createTable name columns =>
      have hname : Fits name := hnames name (by simp [Statement.names])
      exact (createTable hs hstore hname columns).bind fun _ _ => pure _
  | insert name values =>
      have hname : Fits name := hnames name (by simp [Statement.names])
      exact (insert hs hstore hread hname values).bind fun _ _ => pure _
  | select name columns condition =>
      have hname : Fits name := hnames name (by simp [Statement.names])
      exact (select hs hread hname columns condition).bind fun _ _ => pure _
  | update name assignments condition =>
      have hname : Fits name := hnames name (by simp [Statement.names])
      exact (changeTable hs hstore hread hname _).bind fun _ _ => pure _
  | delete name condition =>
      have hname : Fits name := hnames name (by simp [Statement.names])
      exact (changeTable hs hstore hread hname _).bind fun _ _ => pure _
  | alter name change column =>
      have hname : Fits name := hnames name (by simp [Statement.names])
      exact (changeTable hs hstore hread hname _).bind fun _ _ => pure _
  | dropTable name =>
      have hname : Fits name := hnames name (by simp [Statement.names])
      exact (dropTable hs hstore hname).bind fun _ _ => pure _
  | dropDatabase database =>
      have hdatabase : Fits database := hnames database (by simp [Statement.names])
      exact (dropDatabase hstore hdatabase).bind fun _ _ => pure _
  | join left right leftColumn rightColumn =>
      have hleft : Fits left := hnames left (by simp [Statement.names])
      have hright : Fits right := hnames right (by simp [Statement.names])
      exact (join hs hread hleft hright leftColumn rightColumn).bind fun _ _ => pure _

end Commutes

/-! ## Runs -/

namespace Session

variable [Store σ] [Store τ] {f : σ → τ} {s : Session σ}

theorem perform_keptIn {statement : Statement}
    (h : Commutes f statement.action statement.action s) :
    (s.keptIn f).perform statement = (s.perform statement).map id (keptIn f) := by
  unfold Commutes at h
  unfold perform
  rw [h]
  cases hrun : (Statement.action statement : Action σ Reply).run s with
  | mk answer after =>
      cases answer with
      | error fault => rfl
      | ok reply => rfl

theorem execute_keptIn {text : String}
    (h : ∀ statement, Statement.ofText text = .ok statement →
      Commutes f statement.action statement.action s) :
    (s.keptIn f).execute text = (s.execute text).map id (keptIn f) := by
  unfold execute
  split
  · rfl
  · cases hread : Statement.ofText text with
    | error fault => rfl
    | ok statement => exact perform_keptIn (h statement hread)

/-- Texts are answered alike as long as each of their statements does the same in the
session that those before it lead to. -/
theorem executeAll_keptIn {texts : List String}
    (h : ∀ before text, before ++ [text] <+: texts →
      ∀ statement, Statement.ofText text = .ok statement →
        Commutes f statement.action statement.action (s.executeAll before).2) :
    (s.keptIn f).executeAll texts = (s.executeAll texts).map id (keptIn f) := by
  induction texts generalizing s with
  | nil => rfl
  | cons text more ih =>
      have hfirst : (s.keptIn f).execute text = (s.execute text).map id (keptIn f) :=
        execute_keptIn (h [] text (by simp))
      have hmore : ((s.execute text).2.keptIn f).executeAll more =
          ((s.execute text).2.executeAll more).map id (keptIn f) := by
        refine ih fun before other hbefore => ?_
        exact h (text :: before) other (by simpa using hbefore)
      simp only [executeAll]
      rw [hfirst]
      simp only [Prod.map_snd, Prod.map_fst, hmore, id_eq]
      rfl

end Session

end TextTables
