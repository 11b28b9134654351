import TextTables.Proofs.Session.Effects
import TextTables.Proofs.Store.Catalog

/-!
# What statements leave alone

Whatever a catalog holds, also under keys that no name is kept under, a statement changes
at most the one database or the one table that it names.  All other tables keep their
lines.
-/

namespace TextTables

open Catalog (SameBeside SameBesideTable)

/-- What a statement that is carried out does to a catalog while a database is selected, as
far as it can be told from the names in it. -/
def Statement.Touches (selected : Option String) (before after : Catalog) : Statement → Prop
  | .use _ | .select _ _ _ | .join _ _ _ _ => after = before
  | .createDatabase database =>
    before.database? database = none ∧ after.database? database = some .empty ∧
      SameBeside (storedName database) before after
  | .dropDatabase database =>
    (∃ tables, before.database? database = some tables) ∧ after.database? database = none ∧
      SameBeside (storedName database) before after
  | .createTable table _ | .insert table _ | .update table _ _ | .delete table _
  | .alter table _ _ | .dropTable table =>
    ∃ database, selected = some database ∧ SameBesideTable database table before after

theorem Statement.touches_of_rewritten? {statement : Statement} {table database : String}
    {selected : Option String} {before after : Catalog}
    (htable : statement.rewritten? = some table) (hselected : selected = some database)
    (hsame : SameBesideTable database table before after) :
    statement.Touches selected before after := by
  cases statement with
  | insert | update | delete | alter =>
      cases htable
      exact ⟨database, hselected, hsame⟩
  | _ => cases htable

theorem Statement.touches_of_isQuery {statement : Statement} {selected : Option String}
    {c : Catalog} (h : statement.isQuery = true) : statement.Touches selected c c := by
  cases statement with
  | select | join => rfl
  | _ => cases h

namespace Session

/-- Each effect stays within what the statement names. -/
theorem Effect.touches {s t : Session Catalog} {statement : Statement}
    (h : s.Effect statement t) : statement.Touches s.selected s.store t.store := by
  cases h with
  | use hexists htables => rfl
  | createDatabase hstore =>
      obtain ⟨hnone, rfl⟩ := Catalog.createDatabase_eq_ok hstore
      exact ⟨hnone, Catalog.database?_put _ _ _, Catalog.sameBeside_put _ _ _⟩
  | @createTable table database columns store hselected hstore =>
      exact ⟨database, hselected, Catalog.sameBesideTable_of_createTable hstore⟩
  | rewrite htable hselected hstore =>
      exact Statement.touches_of_rewritten? htable hselected
        (Catalog.sameBesideTable_of_write hstore)
  | query hquery => exact Statement.touches_of_isQuery hquery
  | @dropTable table database store hselected hstore =>
      refine ⟨database, hselected, ?_⟩
      rw [store_dropKnown]
      exact Catalog.sameBesideTable_of_dropTable hstore
  | dropDatabase hstore =>
      obtain ⟨htables, rfl⟩ := Catalog.dropDatabase_eq_ok hstore
      rw [dropDatabase_eq]
      exact ⟨htables, Catalog.database?_erase _ _, Catalog.sameBeside_erase _ _⟩

/-- **A statement changes nothing but what it names.**  Whatever a catalog holds and
whatever a session over it has selected and knows, a text that is refused leaves the
catalog as it was.  One that is carried out leaves it alone as a query or a selection, adds
the database that it names, without tables, or takes it out, or changes the table that it
names in the selected database.  All other databases and tables stay line by line. -/
theorem execute_touches (s : Session Catalog) (text : String) :
    ((s.execute text).1.isAccepted = false ∧ (s.execute text).2.store = s.store) ∨
      ∃ statement, Statement.ofText text = .ok statement ∧
        (s.execute text).1.isAccepted = true ∧
        statement.Touches s.selected s.store (s.execute text).2.store := by
  rcases s.execute_cases text with ⟨hrefused, hsame⟩ | ⟨statement, hread, haccepted, heffect⟩
  · exact Or.inl ⟨hrefused, congrArg Session.store hsame⟩
  · exact Or.inr ⟨statement, hread, haccepted, heffect.touches⟩

end Session

end TextTables
