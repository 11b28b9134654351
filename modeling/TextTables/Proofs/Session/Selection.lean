import TextTables.Proofs.Session.Effects
import TextTables.Proofs.Statement.Admissible
import TextTables.Proofs.Store.Calls
import TextTables.Proofs.Text.Lower

/-!
# What a session knows of the selected database

The tables that a session knows are listed once, when a database is selected, and followed
from then on.  Three notions of sameness have to agree for that: a store keeps names under
their lower case, a session forgets a table that is the same up to the case of ASCII
letters, and so it does with the selection.  They agree because no key has a capital.
-/

namespace TextTables

open Store (callAll)

namespace Catalog

/-- No table is kept under a key with one of the capitals `A` to `Z`. -/
abbrev IsSmall (c : Catalog) : Prop :=
  c.Every (fun _ => True) fun name _ => Text.folded name = name.toList

/-- Whatever is put in is put under the lower case of a name. -/
theorem admits_isSmall (call : Store.Call) :
    Admits (fun _ => True) (fun name _ => Text.folded name = name.toList) call := by
  cases call with
  | write | createTable => exact Text.folded_lower _
  | _ => trivial

theorem isSmall_callAll (calls : List Store.Call) : (callAll empty calls).2.IsSmall :=
  every_empty.callAll fun call _ => admits_isSmall call

theorem tables_eq_ok {c : Catalog} {database : String} {names : List String}
    (h : c.tables database = .ok names) :
    ∃ tables, c.database? database = some tables ∧ names = tables.keys := by
  unfold Catalog.tables at h
  split at h
  · cases h
  · next tables hfound =>
      cases h
      exact ⟨tables, hfound, rfl⟩

end Catalog

namespace Session

section

variable {σ : Type} [Store σ]

/-- A database that is selected is there, and the known tables are those that it lists,
each once. -/
def KnowsSelected (s : Session σ) : Prop :=
  ∀ database, s.selected = some database →
    Store.databaseExists s.store database = true ∧ s.knownTables.Nodup ∧
      ∃ tables, Store.tables s.store database = .ok tables ∧
        ∀ name, name ∈ s.knownTables ↔ name ∈ tables

end

/-- The tables of a database of the store are known, each once. -/
def Follows (s : Session Catalog) (database : String) : Prop :=
  ∃ tables names, s.store.database? database = some tables ∧
    s.known.get? (storedName database) = some names ∧ tables.ListedBy names

/-- A session whose selection has been followed since it was made. -/
structure IsFollowing (s : Session Catalog) : Prop where
  isSmall : s.store.IsSmall
  isName : ∀ database, s.selected = some database → Token.isName database = true
  follows : ∀ database, s.selected = some database → s.Follows database

theorem isFollowing_start {c : Catalog} (h : c.IsSmall) : (start c).IsFollowing where
  isSmall := h
  isName := fun _ h => by cases h
  follows := fun _ h => by cases h

theorem IsFollowing.knowsSelected {s : Session Catalog} (h : s.IsFollowing) :
    s.KnowsSelected := by
  intro database hselected
  obtain ⟨tables, names, hfound, hknown, hlisted⟩ := h.follows database hselected
  have hnames : s.knownTables = names := by
    rw [knownTables, hselected]
    exact congrArg (Option.getD · []) hknown
  have hexists : Store.databaseExists s.store database = true :=
    Dict.contains_iff.mpr ⟨tables, hfound⟩
  have htables : Store.tables s.store database = .ok tables.keys := by
    change s.store.tables database = .ok tables.keys
    rw [Catalog.tables, hfound]
  rw [hnames]
  refine ⟨hexists, hlisted.nodup, tables.keys, htables, fun name => ?_⟩
  rw [hlisted.mem_iff, tables.listedBy_keys.mem_iff]

/-! ## What each effect does to the tables known -/

variable {s : Session Catalog} {c : Catalog} {database table : String}

/-- What is known of a database does not depend on other databases. -/
theorem Follows.of_sameBeside {key : String} {t : Session Catalog} (h : s.Follows database)
    (hstore : Catalog.SameBeside key s.store t.store) (hkey : storedName database ≠ key)
    (hknown : t.known.get? (storedName database) = s.known.get? (storedName database)) :
    t.Follows database := by
  obtain ⟨tables, names, hfound, hnames, hlisted⟩ := h
  refine ⟨tables, names, ?_, hknown.trans hnames, hlisted⟩
  exact (hstore _ hkey).trans hfound

theorem Follows.write {lines : List String} (h : s.Follows database)
    (hstore : s.store.write database table lines = (.ok (), c)) :
    Follows { s with store := c } database := by
  obtain ⟨tables, names, hfound, hknown, hlisted⟩ := h
  obtain ⟨before, hbefore, hold, rfl⟩ := Catalog.write_eq_ok hstore
  cases hfound.symm.trans hbefore
  exact ⟨_, names, Catalog.database?_put _ _ _, hknown, hlisted.insert_old hold lines⟩

theorem Follows.createTable {header : List String} (h : s.Follows database)
    (hstore : s.store.createTable database table header = (.ok (), c)) :
    (addKnown { s with store := c } database table).Follows database := by
  obtain ⟨tables, names, hfound, hknown, hlisted⟩ := h
  obtain ⟨before, hbefore, hnew, rfl⟩ := Catalog.createTable_eq_ok hstore
  cases hfound.symm.trans hbefore
  have hmissing : storedName table ∉ names := by
    rw [hlisted.mem_iff, hnew]
    exact Bool.false_ne_true
  refine ⟨_, names ++ [storedName table], Catalog.database?_put _ _ _, ?_,
    hlisted.insert_new hnew _⟩
  simp [addKnown, hknown, hmissing]

theorem Follows.dropTable (h : s.Follows database) (hsmall : s.store.IsSmall)
    (htable : Token.isName table = true)
    (hstore : s.store.dropTable database table = (.ok (), c)) :
    (dropKnown { s with store := c } database table).Follows database := by
  obtain ⟨tables, names, hfound, hknown, hlisted⟩ := h
  obtain ⟨before, hbefore, _, rfl⟩ := Catalog.dropTable_eq_ok hstore
  cases hfound.symm.trans hbefore
  -- What the session takes out by its own comparison of names is the one key that the
  -- store takes out, since no key has a capital.
  have hdropped : names.filter (fun other => !Text.sameWord other table) =
      names.filter (· != storedName table) := by
    apply List.filter_congr
    intro name hname
    obtain ⟨lines, hlines⟩ := Dict.contains_iff.mp ((hlisted.mem_iff name).mp hname)
    have hkey : Text.folded name = name.toList := hsmall.table hfound hlines
    rw [bne, Bool.not_inj_iff, Bool.eq_iff_iff, sameWord_iff_eq_storedName hkey htable,
      beq_iff_eq]
  refine ⟨_, names.filter (· != storedName table), ?_, ?_, hlisted.erase _⟩
  · rw [store_dropKnown]
    exact Catalog.database?_put _ _ _
  · simp [dropKnown, hknown, hdropped]

/-! ## What each effect does to the selection -/

end Session

/-- The selection after a statement that is carried out: what is selected by name, and
nothing where the selected database is taken out. -/
def Statement.selectedAfter (selected : Option String) : Statement → Option String
  | .use database => some database
  | .dropDatabase database => selected.filter fun current => !Text.sameWord current database
  | .createDatabase _ | .createTable _ _ | .insert _ _ | .select _ _ _ | .update _ _ _
  | .delete _ _ | .alter _ _ _ | .dropTable _ | .join _ _ _ _ => selected

namespace Session

section

variable {σ : Type} [Store σ] {s t : Session σ} {statement : Statement}

theorem Effect.selected (h : s.Effect statement t) :
    t.selected = statement.selectedAfter s.selected := by
  cases h with
  | use | createDatabase | createTable => rfl
  | rewrite htable _ _ =>
      cases statement with
      | insert | update | delete | alter => rfl
      | _ => cases htable
  | query hquery =>
      cases statement with
      | select | join => rfl
      | _ => cases hquery
  | dropTable => exact selected_dropKnown _ _ _
  | dropDatabase =>
      rw [dropDatabase_eq]
      rfl

/-- A statement does no more to a store than one call does. -/
theorem Effect.store_cases (h : s.Effect statement t) :
    t.store = s.store ∨ ∃ call : Store.Call, t.store = (call.run s.store).2 := by
  cases h with
  | use | query => exact Or.inl rfl
  | @createDatabase database store hstore =>
      exact Or.inr ⟨.createDatabase database, (congrArg Prod.snd hstore).symm⟩
  | @createTable table database columns store _ hstore =>
      exact Or.inr ⟨.createTable database table (Table.keyColumn :: columns),
        (congrArg Prod.snd hstore).symm⟩
  | @rewrite _ table database lines store _ _ hstore =>
      exact Or.inr ⟨.write database table lines, (congrArg Prod.snd hstore).symm⟩
  | @dropTable table database store _ hstore =>
      rw [store_dropKnown]
      exact Or.inr ⟨.dropTable database table, (congrArg Prod.snd hstore).symm⟩
  | @dropDatabase database store hstore =>
      rw [dropDatabase_eq]
      exact Or.inr ⟨.dropDatabase database, (congrArg Prod.snd hstore).symm⟩

end

/-! ## Runs -/

variable {s t : Session Catalog} {statement : Statement} {database : String}

/-- The database that is selected after a statement has been followed. -/
theorem Effect.follows (h : s.Effect statement t) (hs : s.IsFollowing)
    (hnames : ∀ name ∈ statement.names, Token.isName name = true)
    (hselected : t.selected = some database) : t.Follows database := by
  cases h with
  | use hexists htables =>
      cases hselected
      obtain ⟨tables, hfound, rfl⟩ := Catalog.tables_eq_ok htables
      exact ⟨tables, tables.keys, hfound, Dict.get?_insert_self _ _ _, tables.listedBy_keys⟩
  | @createDatabase other store hstore =>
      -- The selected database is there, so it is not the one that is added.
      have hfollows := hs.follows database hselected
      obtain ⟨hnone, rfl⟩ := Catalog.createDatabase_eq_ok hstore
      refine hfollows.of_sameBeside (Catalog.sameBeside_put _ _ _) ?_ rfl
      intro hsame
      obtain ⟨tables, _, hfound, _⟩ := hfollows
      rw [Catalog.database?, ← hsame] at hnone
      cases hfound.symm.trans hnone
  | createTable hcurrent hstore =>
      cases hcurrent.symm.trans hselected
      exact (hs.follows database hselected).createTable hstore
  | rewrite _ hcurrent hstore =>
      cases hcurrent.symm.trans hselected
      exact (hs.follows database hselected).write hstore
  | query => exact hs.follows database hselected
  | @dropTable table other store hcurrent hstore =>
      rw [selected_dropKnown] at hselected
      cases hcurrent.symm.trans hselected
      exact (hs.follows database hselected).dropTable hs.isSmall
        (hnames table (by simp [Statement.names])) hstore
  | @dropDatabase other store hstore =>
      rw [dropDatabase_eq] at hselected ⊢
      rw [Option.filter_eq_some_iff] at hselected
      obtain ⟨hselected, hother⟩ := hselected
      obtain ⟨_, rfl⟩ := Catalog.dropDatabase_eq_ok hstore
      have hname : Token.isName other = true := hnames other (by simp [Statement.names])
      -- The selection survived, so the names differ up to case, and so do their keys.
      have hkey : storedName database ≠ storedName other := by
        rw [Ne, storedName_eq_storedName_iff (hs.isName database hselected) hname]
        simpa using hother
      refine (hs.follows database hselected).of_sameBeside ?_ hkey ?_
      · exact Catalog.sameBeside_erase _ _
      · exact (Dict.get?_erase _ _ _).trans (if_neg hkey)

theorem Effect.isFollowing (h : s.Effect statement t) (hs : s.IsFollowing)
    (hnames : ∀ name ∈ statement.names, Token.isName name = true) : t.IsFollowing where
  isSmall := by
    rcases h.store_cases with hsame | ⟨call, hcall⟩
    · rw [hsame]
      exact hs.isSmall
    · rw [hcall]
      exact hs.isSmall.run (Catalog.admits_isSmall call)
  isName := by
    intro database hselected
    rw [h.selected] at hselected
    cases statement with
    | use other =>
        cases hselected
        exact hnames database (by simp [Statement.names])
    | dropDatabase other =>
        exact hs.isName database (Option.filter_eq_some_iff.mp hselected).1
    | _ => exact hs.isName database hselected
  follows := fun database hselected => h.follows hs hnames hselected

theorem IsFollowing.execute (h : s.IsFollowing) (text : String) :
    (s.execute text).2.IsFollowing := by
  rcases s.execute_cases text with ⟨_, hsame⟩ | ⟨statement, hread, _, heffect⟩
  · rw [hsame]
    exact h
  · exact heffect.isFollowing h
      fun name hname => ((Statement.wellRead_of_ofText hread).names name hname).isName

theorem IsFollowing.executeAll (h : s.IsFollowing) (texts : List String) :
    (s.executeAll texts).2.IsFollowing :=
  executeAll_induction (P := IsFollowing) (fun text _ _ hs => hs.execute text) h

/-- **What is selected is there, and its tables are known.**  Over a catalog that calls
with any names have built, after any texts and one more, the database that is selected is
there, and the known tables are those that the catalog lists for it, each once.  A text
that is refused leaves the selection as it was, and one that is carried out selects the
database that it names, or nothing where it takes out the selected one in any case of its
letters, or leaves the selection as it was. -/
theorem knowsSelected_execute (calls : List Store.Call) (texts : List String) (text : String) :
    let before := ((start (callAll Catalog.empty calls).2).executeAll texts).2
    let after := (before.execute text).2
    after.KnowsSelected ∧
      (((before.execute text).1.isAccepted = false ∧ after.selected = before.selected) ∨
        ∃ statement, Statement.ofText text = .ok statement ∧
          (before.execute text).1.isAccepted = true ∧
          after.selected = statement.selectedAfter before.selected) := by
  intro before after
  have hstart : (start (callAll Catalog.empty calls).2).IsFollowing :=
    isFollowing_start (Catalog.isSmall_callAll calls)
  have hbefore : before.IsFollowing := hstart.executeAll texts
  refine ⟨(hbefore.execute text).knowsSelected, ?_⟩
  rcases before.execute_cases text with ⟨hrefused, hsame⟩ | ⟨statement, hread, hdone, heffect⟩
  · exact Or.inl ⟨hrefused, congrArg Session.selected hsame⟩
  · exact Or.inr ⟨statement, hread, hdone, heffect.selected⟩

end Session

end TextTables
