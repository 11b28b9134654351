import TextTables.Proofs.Ledger.Tables
import TextTables.Proofs.Table.Change

/-!
# Well-formed ledgers

Every table of a well-formed ledger is well-formed.  The empty ledger is, and a
statement that was read keeps it so: the only table that it can change is put in
place by an operation that keeps tables well-formed.
-/

namespace TextTables

/-- A statement as its execution relies on keeps tables well-formed. -/
theorem Statement.Admissible.keeps_wellFormed {statement : Statement}
    (h : statement.Admissible '\t') (hnames : ∀ name ∈ statement.names, Token.isName name = true) :
    statement.Keeps '\t' Table.WellFormed := by
  have htab := Text.foreign_tab
  have hkeeps : statement.Keeps '\t' (Table.Avoids '\t') := h.keeps_avoids htab hnames
  cases statement with
  | createTable name columns => exact Table.wellFormed_of_areColumns h
  | insert name values =>
      refine ⟨hkeeps.1, fun t ht => (hkeeps.2 t ht.avoids_tab).of_forall_ok ?_⟩
      exact fun changed hchanged => ht.insert h hchanged
  | update name assignments condition =>
      intro t ht
      refine (hkeeps t ht.avoids_tab).of_forall_ok ?_
      exact fun changed hchanged => ht.update h hchanged
  | delete name condition => exact fun t ht => ht.delete condition
  | alter name change column =>
      intro t ht
      refine (hkeeps t ht.avoids_tab).of_forall_ok ?_
      exact fun changed hchanged => ht.alter h hchanged
  | select => exact fun t ht => hkeeps t ht.avoids_tab
  | join => exact fun t u ht hu => hkeeps t u ht.avoids_tab hu.avoids_tab
  | use | createDatabase | dropTable | dropDatabase => trivial

namespace Ledger

/-- Every table is well-formed. -/
def WellFormed (l : Ledger) : Prop :=
  l.Every Table.WellFormed

theorem wellFormed_empty : empty.WellFormed :=
  every_empty

theorem WellFormed.table? {l : Ledger} (h : l.WellFormed) {database name : String}
    {t : Table} (ht : l.table? database name = some t) : t.WellFormed :=
  Every.table? h ht

theorem exists_of_current_eq_ok {l : Ledger} {database : String}
    (h : l.current = .ok database) : l.selected = some database := by
  unfold current at h
  split at h
  · next found hselected =>
      cases h
      exact hselected
  · cases h

theorem WellFormed.execute {l : Ledger} (h : l.WellFormed) (text : String) :
    (l.execute text).2.WellFormed := by
  unfold Ledger.execute
  split
  · exact h
  · split
    · exact h
    · next statement hread =>
        have hstatement := Statement.wellRead_of_ofText hread
        have hnames := fun name hname => (hstatement.names name hname).isName
        have hkeeps := hstatement.admissible.keeps_wellFormed hnames
        exact (Every.perform Text.foreign_tab h hnames hkeeps).2

end Ledger

end TextTables
