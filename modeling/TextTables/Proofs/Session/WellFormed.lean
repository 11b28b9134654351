import TextTables.Proofs.Ledger.Transcript

/-!
# What statements leave behind is well-formed

Whatever texts a session was given since it started without databases, the lines of
every table are a header and rows of its width under rising ids, and a row that is
accepted is written under the id after the largest one.
-/

namespace TextTables

namespace Table

/-- The lines of a well-formed table: a header and below it the rows, without lines that
are skipped. -/
def WellFormedLines (lines : List String) : Prop :=
  ∃ header rows, lines = header :: rows ∧
    WellFormed ⟨Row.ofLine header, rows.map Row.ofLine⟩

/-- The ids at the beginning of the lines below the header. -/
def KeyedLines (ids : List Int) (lines : List String) : Prop :=
  Keyed ids (lines.tail.map Row.ofLine)

theorem WellFormed.wellFormedLines_toLines {t : Table} (h : t.WellFormed) :
    WellFormedLines t.toLines := by
  have hheader : Row.ofLine (Row.toLine t.header) = t.header :=
    Row.ofLine_toLine h.encodable.header_ne_nil h.encodable.header_tabFree
  refine ⟨Row.toLine t.header, t.rows.map Row.toLine, rfl, ?_⟩
  rw [hheader, h.encodable.ofLine_toLine_rows]
  exact h

theorem WellFormed.keyedLines_toLines {t : Table} (h : t.WellFormed) {ids : List Int}
    (hids : Keyed ids t.rows) : KeyedLines ids t.toLines := by
  rw [KeyedLines, toLines, List.map_cons, List.tail_cons, h.encodable.ofLine_toLine_rows]
  exact hids

end Table

namespace Ledger

theorem exists_of_toCatalog {l : Ledger} {key name : String} {tables : Dict (List String)}
    {lines : List String} (htables : l.toCatalog.databases.get? key = some tables)
    (hlines : tables.get? name = some lines) :
    ∃ values t, l.databases.get? key = some values ∧ values.get? name = some t ∧
      lines = t.toLines := by
  rw [toCatalog, Dict.get?_mapValues] at htables
  obtain ⟨values, hvalues, rfl⟩ := Option.map_eq_some_iff.mp htables
  rw [Dict.get?_mapValues] at hlines
  obtain ⟨t, ht, rfl⟩ := Option.map_eq_some_iff.mp hlines
  exact ⟨values, t, hvalues, ht, rfl⟩

end Ledger

namespace Session

/-- **Every table that statements can make is well-formed.**  Under whatever key a
catalog keeps a table after some texts, its lines are those of a well-formed table; and
the line that an accepted `INSERT` adds at the end begins with one more than the largest
id that is there. -/
theorem executeAll_wellFormed (texts : List String) :
    let s : Session Catalog := ((start Catalog.empty).executeAll texts).2
    (∀ key tables name lines, s.store.databases.get? key = some tables →
        tables.get? name = some lines → Table.WellFormedLines lines) ∧
      ∀ insertion name values database lines,
        Statement.ofText insertion = .ok (.insert name values) →
        s.selected = some database → s.store.table? database name = some lines →
        (s.execute insertion).1.isAccepted = true →
          ∃ ids, Table.KeyedLines ids lines ∧
            (s.execute insertion).2.store.table? database name =
              some (lines ++ [Row.toLine
                (Whole.toText (Table.largest ids + 1) :: values.map Token.stripQuotes)]) := by
  intro s
  have hl := Ledger.wellFormed_empty.afterAll texts
  have hs := Ledger.wellFormed_empty.shownBy_afterAll Ledger.shownBy_start texts
  constructor
  · intro key tables name lines htables hlines
    rw [hs.store] at htables
    obtain ⟨values, t, hvalues, ht, rfl⟩ := Ledger.exists_of_toCatalog htables hlines
    exact (hl.tables key values hvalues name t ht).wellFormedLines_toLines
  · intro insertion name values database lines hinsertion hdatabase hlines haccepted
    obtain ⟨hreply, hshown⟩ := hl.agree_execute hs insertion
    rw [hreply, Ledger.execute_of_ofText hinsertion] at haccepted
    obtain ⟨next, hnext, hperform⟩ := Ledger.exists_of_isAccepted_insert haccepted
    obtain ⟨current, t, changed, hselected, _, ht, hchanged, ht'⟩ :=
      Ledger.exists_of_insert_eq_ok hnext
    have hcurrent : current = database := by
      rw [hs.selected, hselected] at hdatabase
      exact Option.some.inj hdatabase
    subst hcurrent
    have hwell := hl.table? ht
    obtain ⟨ids, hids⟩ := hwell.keyed
    obtain ⟨_, _, rfl⟩ := hids.insert_eq_ok hchanged
    rw [hs.store, Ledger.table?_toCatalog, ht] at hlines
    cases hlines
    rw [Ledger.execute_of_ofText hinsertion, hperform] at hshown
    refine ⟨ids, hwell.keyedLines_toLines hids, ?_⟩
    rw [hshown.store, Ledger.table?_toCatalog, ht']
    simp [Table.toLines]

/-- After the first of two rows was taken out, the next row is given the id 3. -/
theorem executeAll_wellFormed_after_delete :
    let s : Session Catalog := ((start Catalog.empty).executeAll
      ["CREATE DATABASE d;", "USE d;", "CREATE TABLE t(c);", "INSERT INTO t VALUES ('x');",
       "INSERT INTO t VALUES ('y');", "DELETE FROM t WHERE id == 1;"]).2
    s.store.table? "d" "t" = some ["id\tc", "2\ty"] ∧
      ∃ ids, Table.KeyedLines ids ["id\tc", "2\ty"] ∧
        (s.execute "INSERT INTO t VALUES ('z');").2.store.table? "d" "t" =
          some (["id\tc", "2\ty"] ++ [Row.toLine
            (Whole.toText (Table.largest ids + 1) :: ["'z'"].map Token.stripQuotes)]) := by
  have hlines : (((start Catalog.empty).executeAll
      ["CREATE DATABASE d;", "USE d;", "CREATE TABLE t(c);", "INSERT INTO t VALUES ('x');",
       "INSERT INTO t VALUES ('y');", "DELETE FROM t WHERE id == 1;"]).2).store.table? "d" "t" =
      some ["id\tc", "2\ty"] := by decide +kernel
  refine ⟨hlines, ?_⟩
  exact (executeAll_wellFormed
    ["CREATE DATABASE d;", "USE d;", "CREATE TABLE t(c);", "INSERT INTO t VALUES ('x');",
     "INSERT INTO t VALUES ('y');", "DELETE FROM t WHERE id == 1;"]).2
    "INSERT INTO t VALUES ('z');" "t" ["'z'"] "d" ["id\tc", "2\ty"] (by decide +kernel)
    (by decide +kernel) hlines (by decide +kernel)

end Session

end TextTables
