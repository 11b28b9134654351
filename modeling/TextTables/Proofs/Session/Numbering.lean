import TextTables.Proofs.Session.Effects
import TextTables.Proofs.Statement.Admissible
import TextTables.Proofs.Store.Lines
import TextTables.Proofs.Table.Numbering

/-!
# Sessions that add rows to a table

The ids that rows are given follow the id of the last row, whatever the others are.  This is
followed through any number of insertions, over every store that gives back the lines that
were written.
-/

namespace TextTables.Session

open Text (FreeOf)

variable {σ : Type} [Store σ] {IsKept : String → Prop} {s : Session σ} {database name : String}
  {t : Table} {ids : List Int} {last : Int}

/-- The selected database has a table under the name, whose lines are of a kind and whose
rows begin with the numbers. -/
structure HoldsNumbered (s : Session σ) (IsKept : String → Prop) (database name : String)
    (t : Table) (ids : List Int) : Prop where
  selected : s.selected = some database
  found : Table.ofLines? (Store.read s.store database name) = some t
  kept : ∀ line ∈ Store.read s.store database name, IsKept line
  numbered : t.Numbered ids

/-- A text that adds a row to a table, which it names in any spelling, and the line of the
row is of a kind under every id. -/
def AddsTo (name : String) (IsKept : String → Prop) (text : String) : Prop :=
  ∃ other values, Statement.ofText text = .ok (.insert other values) ∧
    storedName other = storedName name ∧
    ∀ id, IsKept (Row.toLine (Whole.toText id :: values.map Token.stripQuotes))

/-- A text without ends of lines adds a row that is one line of a file. -/
theorem addsTo_isLine {text other : String} {values : List String}
    (hread : Statement.ofText text = .ok (.insert other values))
    (hother : storedName other = storedName name)
    (hfeed : FreeOf '\n' text) (hreturn : FreeOf '\r' text) : AddsTo name Text.IsLine text := by
  have hfree : ∀ c, Text.Foreign c → c ≠ '\t' → FreeOf c text → ∀ id,
      c ∉ (Row.toLine (Whole.toText id :: values.map Token.stripQuotes)).toList := by
    intro c hc htab htext id hmem
    have hvalues : Row.Avoids c values :=
      ((Statement.satisfies_ofText hc htext).of_eq_ok hread).admissible
    rcases Row.mem_toLine hmem with rfl | ⟨cell, hcell, hmem⟩
    · exact htab rfl
    · exact hvalues.map_stripQuotes.cons (hc.freeOf_toText id) cell hcell hmem
  refine ⟨other, values, hread, hother, fun id => ⟨?_, fun hlast => ?_⟩⟩
  · exact hfree '\n' Text.foreign_lineFeed (by decide) hfeed id
  · have hforeign : Text.Foreign '\r' := ⟨by decide, by decide, by decide, by decide⟩
    exact hfree '\r' hforeign (by decide) hreturn id (List.mem_of_getLast? hlast)

/-- One insertion: the row comes behind the others, and its id is that after the last one. -/
theorem HoldsNumbered.execute (hkeeps : Store.KeepsLines σ IsKept)
    (hs : s.HoldsNumbered IsKept database name t (ids ++ [last])) {text : String}
    (htext : AddsTo name IsKept text) (haccepted : (s.execute text).1.isAccepted = true) :
    ∃ cells, (s.execute text).2.HoldsNumbered IsKept database name
      { t with rows := t.rows ++ [Whole.toText (last + 1) :: cells] }
      (ids ++ [last] ++ [last + 1]) := by
  obtain ⟨other, values, hread, hother, hline⟩ := htext
  obtain ⟨current, lines, store, hselected, hlines, hwrite, hdone⟩ :=
    exists_of_isAccepted_insert hread haccepted
  cases hs.selected.symm.trans hselected
  rw [hkeeps.read_congr _ _ hother, Action.linesAfterInsert, hs.found] at hlines
  obtain ⟨changed, hchanged, rfl⟩ := exists_of_map_eq_ok hlines
  obtain ⟨rfl, hnumbered⟩ := hs.numbered.insert hchanged
  refine ⟨values.map Token.stripQuotes, ?_⟩
  have hkept : ∀ line ∈ Table.toLines { t with
      rows := t.rows ++ [Whole.toText (last + 1) :: values.map Token.stripQuotes] },
      IsKept line := by
    intro line hmem
    rcases Table.toLines_append_row hs.found _ hmem with hmem | rfl
    · exact hs.kept line hmem
    · exact hline (last + 1)
  have hback := hkeeps.read_write hwrite hkept
  rw [hkeeps.read_congr _ _ hother] at hback
  rw [hdone]
  refine ⟨hs.selected, ?_, ?_, hnumbered⟩
  · have hvalues : Row.Avoids '\t' values := (Statement.wellRead_of_ofText hread).admissible
    rw [hback]
    exact hnumbered.ofLines?_toLines_append hs.found
      (hvalues.map_stripQuotes.cons (Text.foreign_tab.freeOf_toText (last + 1)))
  · rw [hback]
    exact hkept

/-- Any number of insertions: the ids are those before and the numbers that follow the last
one, each of them written as a numeral. -/
theorem HoldsNumbered.executeAll (hkeeps : Store.KeepsLines σ IsKept)
    (hs : s.HoldsNumbered IsKept database name t (ids ++ [last])) {texts : List String}
    (htexts : ∀ text ∈ texts, AddsTo name IsKept text)
    (haccepted : ∀ reply ∈ (s.executeAll texts).1, reply.isAccepted = true) :
    ∃ added, (s.executeAll texts).2.HoldsNumbered IsKept database name
        { t with rows := t.rows ++ added } (ids ++ [last] ++ Table.following last texts.length) ∧
      added.map List.head? =
        (Table.following last texts.length).map (some ∘ Whole.toText) := by
  induction texts generalizing s t ids last with
  | nil =>
      refine ⟨[], ?_, rfl⟩
      have hids : ids ++ [last] ++ Table.following last 0 = ids ++ [last] := List.append_nil _
      rw [List.append_nil, List.length_nil, hids]
      exact hs
  | cons text more ih =>
      rw [executeAll_cons] at haccepted ⊢
      obtain ⟨hfirst, hmore⟩ := List.forall_mem_cons.mp haccepted
      obtain ⟨htext, hrest⟩ := List.forall_mem_cons.mp htexts
      obtain ⟨cells, hnext⟩ := hs.execute hkeeps htext hfirst
      obtain ⟨added, hlast, hheads⟩ := ih hnext hrest hmore
      refine ⟨(Whole.toText (last + 1) :: cells) :: added, ?_, ?_⟩
      · rw [List.length_cons, Table.following_succ, List.append_cons t.rows,
          List.append_cons (ids ++ [last])]
        exact hlast
      · rw [List.length_cons, Table.following_succ, List.map_cons, List.map_cons, hheads]
        rfl

/-- **Ids follow the last one.**  Over every store that gives back the lines that were
written, and whatever numbers the rows of a table begin with, `n` insertions that are carried
out add rows with the ids that follow the id of the last row, one after another, and change
no other row.  The first of them is the one after the largest exactly if the last row has the
largest id, and distinct ids stay distinct exactly if none of them is among those that follow
the last one. -/
theorem ids_follow_last (hkeeps : Store.KeepsLines σ IsKept)
    (hs : s.HoldsNumbered IsKept database name t (ids ++ [last]))
    (hdistinct : (ids ++ [last]).Nodup) {texts : List String}
    (htexts : ∀ text ∈ texts, AddsTo name IsKept text)
    (haccepted : ∀ reply ∈ (s.executeAll texts).1, reply.isAccepted = true) :
    (∃ added, (s.executeAll texts).2.HoldsNumbered IsKept database name
        { t with rows := t.rows ++ added } (ids ++ [last] ++ Table.following last texts.length) ∧
      added.map List.head? =
        (Table.following last texts.length).map (some ∘ Whole.toText)) ∧
      (last + 1 = Table.largest (ids ++ [last]) + 1 ↔ ∀ id ∈ ids, id ≤ last) ∧
      ((ids ++ [last] ++ Table.following last texts.length).Nodup ↔
        ∀ id ∈ ids, id ≤ last ∨ last + texts.length < id) := by
  refine ⟨hs.executeAll hkeeps htexts haccepted, ?_, Table.nodup_append_following_iff hdistinct⟩
  rw [← Table.largest_concat_eq_iff, eq_comm]
  omega

/-- The last of three rows has neither the least nor the largest id.  In a catalog and in
files two rows are given the ids after it. -/
theorem ids_follow_last_of_three :
    let lines := ["id\tc", "7\ta", " -2 \tb", "+3\tc"]
    let texts := ["INSERT INTO t VALUES ('x');", "INSERT INTO T VALUES ('y');"]
    let kept : Session Catalog := ⟨⟨Dict.empty.insert "d" (Dict.empty.insert "t" lines)⟩,
      some "d", .empty⟩
    let filed : Session Directory := ⟨.ofTree (.directory [("d", .directory [("t",
      .file (Directory.content lines))])]), some "d", .empty⟩
    (∃ t, (kept.executeAll texts).2.HoldsNumbered (fun _ => True) "d" "t" t [7, -2, 3, 4, 5]) ∧
      (∃ t, (filed.executeAll texts).2.HoldsNumbered Text.IsLine "d" "t" t [7, -2, 3, 4, 5]) ∧
      [7, -2, 3, 4, 5].Nodup := by
  intro lines texts kept filed
  let t : Table := ⟨["id", "c"], [["7", "a"], [" -2 ", "b"], ["+3", "c"]]⟩
  have hfirst : Statement.ofText "INSERT INTO t VALUES ('x');" = .ok (.insert "t" ["'x'"]) := by
    decide +kernel
  have hsecond : Statement.ofText "INSERT INTO T VALUES ('y');" = .ok (.insert "T" ["'y'"]) := by
    decide +kernel
  have hname : storedName "T" = storedName "t" := by decide +kernel
  have htexts : ∀ text ∈ texts, AddsTo "t" Text.IsLine text := by
    refine List.forall_mem_cons.mpr ⟨?_, List.forall_mem_singleton.mpr ?_⟩
    · exact addsTo_isLine hfirst rfl (by decide +kernel) (by decide +kernel)
    · exact addsTo_isLine hsecond hname (by decide +kernel) (by decide +kernel)
  have hany : ∀ text ∈ texts, AddsTo "t" (fun _ => True) text := by
    intro text htext
    obtain ⟨other, values, hread, hother, _⟩ := htexts text htext
    exact ⟨other, values, hread, hother, fun _ => trivial⟩
  have hkept : kept.HoldsNumbered (fun _ => True) "d" "t" t ([7, -2] ++ [3]) :=
    ⟨rfl, by decide +kernel, fun _ _ => trivial, by decide +kernel⟩
  have hfiled : filed.HoldsNumbered Text.IsLine "d" "t" t ([7, -2] ++ [3]) :=
    ⟨rfl, by decide +kernel, by decide +kernel, by decide +kernel⟩
  have haccepted : (∀ reply ∈ (kept.executeAll texts).1, reply.isAccepted = true) ∧
      ∀ reply ∈ (filed.executeAll texts).1, reply.isAccepted = true := by
    simp only [texts, executeAll_cons, execute_of_ofText hfirst, execute_of_ofText hsecond]
    decide +kernel
  obtain ⟨⟨_, hlast, _⟩, _, hdistinct⟩ := ids_follow_last Catalog.keepsLines hkept (by decide)
    hany haccepted.1
  obtain ⟨⟨_, hlast', _⟩, _⟩ := ids_follow_last Directory.keepsLines hfiled (by decide) htexts
    haccepted.2
  exact ⟨⟨_, hlast⟩, ⟨_, hlast'⟩, hdistinct.mpr (by decide)⟩

/-- Rows out of order: the row that is added gets the id of the first one again. -/
theorem ids_follow_last_not_largest :
    let s : Session Catalog := ⟨⟨Dict.empty.insert "d" (Dict.empty.insert "t"
      ["id\tc", "2\ta", "1\tb"])⟩, some "d", .empty⟩
    let t : Table := ⟨["id", "c"], [["2", "a"], ["1", "b"]]⟩
    Table.ofLines? (Store.read s.store "d" "t") = some t ∧ t.Numbered [2, 1] ∧
      (s.execute "INSERT INTO t VALUES ('x');").1 = .done ∧
      Store.read (s.execute "INSERT INTO t VALUES ('x');").2.store "d" "t" =
        ["id\tc", "2\ta", "1\tb", "2\tx"] ∧
      (2 : Int) ≠ Table.largest [2, 1] + 1 := by
  decide +kernel

end TextTables.Session
