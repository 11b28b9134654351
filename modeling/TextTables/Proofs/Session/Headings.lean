import TextTables.Proofs.Session.Effects
import TextTables.Proofs.Statement.Admissible
import TextTables.Proofs.Table.Headings

/-!
# Sessions that give a table its header

An insertion into a table without a header writes its values as the headings.  It refuses a
heading that comes twice letter by letter, but not one that differs from another one in case
only, and the later of two such columns is reached by no statement.
-/

namespace TextTables.Session

open Text (sameWord)

/-- **The header of a first insertion, and which of its columns are reached.**  Over every
store, an insertion into a table without lines that is carried out writes the key and the
headings among its values, which differ letter by letter, and this header is read again as
it was written.  Whatever rows are added, a column is reached under its heading exactly if
no earlier heading is the same word, so all columns are if and only if no two of the
headings are the same word. -/
theorem headings_written {σ : Type} [Store σ] (s : Session σ) {text name : String}
    {values : List String} (hread : Statement.ofText text = .ok (.insert name values))
    (haccepted : (s.execute text).1.isAccepted = true)
    (hempty : ∀ database, s.selected = some database →
      Store.read s.store database name = []) :
    ∃ database store, s.selected = some database ∧
      Store.write s.store database name
        [Row.toLine (Table.keyColumn :: Table.headings values)] = (.ok (), store) ∧
      s.execute text = (.done, { s with store := store }) ∧
      (Table.headings values).Nodup ∧
      Table.ofLines? [Row.toLine (Table.keyColumn :: Table.headings values)] =
        some ⟨Table.keyColumn :: Table.headings values, []⟩ ∧
      ∀ t : Table, t.header = Table.keyColumn :: Table.headings values →
        (∀ place (hplace : place < t.header.length), t.Reaches t.header[place] place ↔
          ∀ earlier ∈ t.header.take place, sameWord earlier t.header[place] = false) ∧
        (t.Addressable ↔
          (Table.headings values).Pairwise fun a b => sameWord a b = false) := by
  obtain ⟨database, lines, store, hselected, hlines, hwrite, hdone⟩ :=
    exists_of_isAccepted_insert hread haccepted
  rw [hempty database hselected] at hlines
  obtain ⟨header, hheader, rfl⟩ := exists_of_map_eq_ok hlines
  obtain ⟨hnodup, rfl⟩ := Table.headerOf_eq_ok_iff.mp hheader
  have hfree : Row.Avoids '\t' values := (Statement.wellRead_of_ofText hread).admissible
  refine ⟨database, store, hselected, hwrite, hdone, hnodup, ?_, fun t ht => ⟨?_, ?_⟩⟩
  · have hline := Row.ofLine_toLine (List.cons_ne_nil _ _)
      (Table.avoids_headings Text.foreign_tab hfree)
    rw [Table.ofLines?, hline]
    rfl
  · intro place hplace
    exact Table.reaches_getElem_iff hplace
  · rw [Table.addressable_iff, ht]
    exact Table.pairwise_headings_iff

/-- A heading that comes twice letter by letter is refused. -/
example :
    let s : Session Catalog := ⟨⟨Dict.empty.insert "d" (Dict.empty.insert "t" [])⟩, some "d",
      .empty⟩
    (s.execute "INSERT INTO t VALUES (a, a);").1 = .refused (.headingTwice "a") := by
  decide +kernel

/-- The key is left out in any case, and names that only look alike are different words. -/
theorem headings_written_of_three :
    let s : Session Catalog := ⟨⟨Dict.empty.insert "d" (Dict.empty.insert "t" [])⟩, some "d",
      .empty⟩
    (s.execute "INSERT INTO t VALUES ('Name', 'ID', names, 'id', 'a b');").1 = .done ∧
      Store.read (s.execute "INSERT INTO t VALUES ('Name', 'ID', names, 'id', 'a b');").2.store
        "d" "T" = ["id\tName\tnames\ta b"] ∧
      Table.Addressable ⟨["id", "Name", "names", "a b"], [["1", "x", "y", "z"]]⟩ := by
  intro s
  have hread : Statement.ofText "INSERT INTO t VALUES ('Name', 'ID', names, 'id', 'a b');" =
      .ok (.insert "t" ["'Name'", "'ID'", "names", "'id'", "'a b'"]) := by
    decide +kernel
  have hrun :
      (s.execute "INSERT INTO t VALUES ('Name', 'ID', names, 'id', 'a b');").1 = .done ∧
        Store.read (s.execute "INSERT INTO t VALUES ('Name', 'ID', names, 'id', 'a b');").2.store
          "d" "T" = ["id\tName\tnames\ta b"] := by
    rw [execute_of_ofText hread]
    decide +kernel
  have hempty : ∀ database, s.selected = some database → Store.read s.store database "t" = [] := by
    rintro database ⟨⟩
    decide +kernel
  obtain ⟨_, _, _, _, _, _, _, hreached⟩ :=
    headings_written s hread (congrArg Reply.isAccepted hrun.1) hempty
  refine ⟨hrun.1, hrun.2, ?_⟩
  exact (hreached ⟨["id", "Name", "names", "a b"], [["1", "x", "y", "z"]]⟩
    (by decide +kernel)).2.mpr (by decide +kernel)

/-- Of two headings that differ in case the second is not reached: a query of the one shows
the other column.  A new table with these columns is refused. -/
theorem headings_written_ne_of_case :
    let s : Session Catalog := ⟨⟨Dict.empty.insert "d" (Dict.empty.insert "t" [])⟩, some "d",
      .empty⟩
    let written := (s.execute "INSERT INTO t VALUES ('a', 'A');").2
    let filled := (written.execute "INSERT INTO t VALUES ('x', 'y');").2
    (s.execute "INSERT INTO t VALUES ('a', 'A');").1 = .done ∧
      Store.read written.store "d" "t" = ["id\ta\tA"] ∧
      Table.columnIndex? ⟨["id", "a", "A"], []⟩ "A" ≠ some 2 ∧
      (filled.execute "SELECT A FROM t;").1 = .rows ⟨["a"], [["x"]]⟩ ∧
      (s.execute "CREATE TABLE u(a, A);").1 = .refused (.columnTwice "A") := by
  decide +kernel

end TextTables.Session
