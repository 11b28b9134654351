import TextTables.Proofs.Session.Runs
import TextTables.Proofs.Statement.Composed
import TextTables.Proofs.Table.Joining
import TextTables.Store.Catalog

/-!
# Queries of two tables

Over every store, and whatever the rows of the two tables are like, a join shows one row for
each pair of rows with equal keys.
-/

namespace TextTables.Session

variable {σ : Type} [Store σ] {s : Session σ} {database : String}

theorem perform_join {leftName rightName leftColumn rightColumn : String}
    {left right found : Table} (hselected : s.selected = some database)
    (hleft : Table.ofLines? (Store.read s.store database leftName) = some left)
    (hright : Table.ofLines? (Store.read s.store database rightName) = some right)
    (hfound : left.join right leftName rightName leftColumn rightColumn = .ok found) :
    s.perform (.join leftName rightName leftColumn rightColumn) = (.rows found, s) := by
  have hjoin : (Action.join leftName rightName leftColumn rightColumn).run s =
      (.ok found, s) := by
    rw [Action.join, Attempt.run_bind, run_lines hselected]
    simp only [Attempt.run_bind, run_lines hselected, Attempt.run_ofExcept, Action.bothOf, hleft,
      hright, hfound]
  rw [perform, Statement.action, Attempt.run_bind, hjoin]
  rfl

/-- **A join shows one row for each pair of rows that agree.**  For two tables of the selected
database, with rows of any width, and columns that they have, the rows shown are made of the
pairs of a left and a right row that both have their key cell and whose keys are equal: one
of each pair, the left row varying slowest, with a cell for each heading.  With the tables
and the columns exchanged, as many rows are shown, one for each of these pairs the other way
around. -/
theorem rows_joined {text leftName rightName leftColumn rightColumn : String}
    {left right : Table} {leftKey rightKey : Nat} (hselected : s.selected = some database)
    (hleft : Table.ofLines? (Store.read s.store database leftName) = some left)
    (hright : Table.ofLines? (Store.read s.store database rightName) = some right)
    (hleftKey : left.columnIndex? leftColumn = some leftKey)
    (hrightKey : right.columnIndex? rightColumn = some rightKey)
    (hread : Statement.ofText text = .ok (.join leftName rightName leftColumn rightColumn)) :
    ∃ found exchanged pairs others,
      s.execute text = (.rows found, s) ∧
      found.header = left.joinedHeader right leftKey rightKey leftName rightName ∧
      left.JoinsInto right leftKey rightKey pairs found.rows ∧
      (∀ row ∈ found.rows, row.length = found.header.length) ∧
      s.execute ("JOIN " ++ rightName ++ " AND " ++ leftName ++ " ON " ++ rightColumn ++ " AND " ++
        leftColumn ++ ";") = (.rows exchanged, s) ∧
      right.JoinsInto left rightKey leftKey others exchanged.rows ∧
      others.Perm (pairs.map Prod.swap) ∧ exchanged.rows.length = found.rows.length := by
  obtain ⟨⟨hleftWord, hrightWord⟩, hleftColumn, hrightColumn⟩ :=
    Statement.isNameWord_of_ofText_join hread
  have hfound := Table.join_eq_ok leftName rightName hleftKey hrightKey
  have hexchanged := Table.join_eq_ok rightName leftName hrightKey hleftKey
  obtain ⟨pairs, hpairs⟩ := Table.exists_joinsInto left right leftKey rightKey
  obtain ⟨others, hothers⟩ := Table.exists_joinsInto right left rightKey leftKey
  have hperm := hpairs.perm_map_swap hothers
  have hshown := perform_join hselected hleft hright hfound
  rw [← execute_of_ofText hread] at hshown
  have hshownExchanged := perform_join hselected hright hleft hexchanged
  rw [← execute_of_ofText
    (Statement.ofText_join hrightWord hleftWord hrightColumn hleftColumn)] at hshownExchanged
  refine ⟨_, _, pairs, others, hshown, rfl, hpairs, Table.length_of_join_eq_ok hfound,
    hshownExchanged, hothers, hperm, ?_⟩
  rw [hothers.length_eq, hpairs.length_eq, hperm.length_eq, List.length_map]

/-- A session over two tables, with a repeated row, rows without a key cell and a row that is
wider than its header. -/
def uneven : Session Catalog where
  store := ⟨Dict.empty.insert "d" ((Dict.empty.insert "a" ["id\tk", "1\t1", "1\t1", "3"]).insert
    "b" ["id\tk\tv", "7\t1.0\tu\tw", "8"])⟩
  selected := some "d"
  known := .empty

/-- The repeated row is joined twice, and a row without its key cell never. -/
theorem rows_joined_of_uneven :
    uneven.execute "join a and b on k and K;" =
        (.rows ⟨["id", "b.id", "b.v"], [["1", "7", "u"], ["1", "7", "u"]]⟩, uneven) ∧
      ∃ exchanged, uneven.execute "JOIN b AND a ON K AND k;" = (.rows exchanged, uneven) ∧
        exchanged.rows.length = 2 := by
  have hread : Statement.ofText "join a and b on k and K;" = .ok (.join "a" "b" "k" "K") := by
    decide +kernel
  have hleft : Table.ofLines? (Store.read uneven.store "d" "a") =
      some ⟨["id", "k"], [["1", "1"], ["1", "1"], ["3"]]⟩ := by decide +kernel
  have hright : Table.ofLines? (Store.read uneven.store "d" "b") =
      some ⟨["id", "k", "v"], [["7", "1.0", "u", "w"], ["8"]]⟩ := by decide +kernel
  have hleftKey : Table.columnIndex? ⟨["id", "k"], [["1", "1"], ["1", "1"], ["3"]]⟩ "k" =
      some 1 := by decide +kernel
  have hrightKey : Table.columnIndex? ⟨["id", "k", "v"], [["7", "1.0", "u", "w"], ["8"]]⟩ "K" =
      some 1 := by decide +kernel
  have hreply : (uneven.execute "join a and b on k and K;").1 =
      .rows ⟨["id", "b.id", "b.v"], [["1", "7", "u"], ["1", "7", "u"]]⟩ := by decide +kernel
  obtain ⟨found, exchanged, _, _, hshown, _, _, _, hexchanged, _, _, hlength⟩ :=
    rows_joined rfl hleft hright hleftKey hrightKey hread
  rw [hshown] at hreply
  cases hreply
  exact ⟨hshown, exchanged, hexchanged, hlength⟩

end TextTables.Session
