import TextTables.Proofs.Session.WellFormed
import TextTables.Proofs.Statement.Composed
import TextTables.Proofs.Store.Directory
import TextTables.Proofs.Store.Names
import TextTables.Proofs.Table.Damage

/-!
# Sessions over files

A session over files answers as one over a catalog exactly as long as every line that is
kept is one line of a file.  A line with a line feed in it, or a carriage return at its
end, does not come back as it was written, and whoever looks at the table sees it.
-/

namespace TextTables.Session

/-! ## While lines come back -/

theorem start_keptIn_top :
    (start Catalog.empty).keptIn Root.top.keep = start Directory.empty := rfl

theorem IsNamed.actsAlike {s : Session Catalog} (hs : s.IsNamed) :
    Store.ActsAlike Root.top.keep IsFileName s.store :=
  Root.actsAlike_keep (fun _ hname => hname.isEntryName) hs.store.isEntryName

/-- A statement does the same in files where every line comes back. -/
theorem IsNamed.commutes {s : Session Catalog} (hs : s.IsNamed) (hlined : s.store.IsLined)
    {statement : Statement} (hnames : ∀ name ∈ statement.names, IsFileName name) :
    Commutes Root.top.keep statement.action statement.action s :=
  Commutes.action hs.selected hs.actsAlike
    (Root.readsAlike_keep (fun _ hname => hname.isEntryName) hlined) hnames

/-- As long as every line comes back before each text, the runs are alike. -/
theorem executeAll_in_files {texts : List String}
    (hnames : ∀ text ∈ texts, HasShortNames text)
    (hlined : ∀ before text, before ++ [text] <+: texts →
      ((start Catalog.empty).executeAll before).2.store.IsLined) :
    (start Directory.empty).executeAll texts =
      ((start Catalog.empty).executeAll texts).map id (keptIn Root.top.keep) := by
  rw [← start_keptIn_top]
  refine executeAll_keptIn fun before text hbefore statement hread => ?_
  have hmem : ∀ other ∈ before ++ [text], HasShortNames other :=
    fun other hother => hnames other (hbefore.subset hother)
  have hnamed : ((start Catalog.empty).executeAll before).2.IsNamed :=
    isNamed_start.executeAll fun other hother => hmem other (List.mem_append_left _ hother)
  have hshort : HasShortNames text := hmem text (by simp)
  exact hnamed.commutes (hlined before text hbefore) (hshort.isFileName hread)

/-- Looking around changes no line, so lines that came back go on to do so. -/
theorem isLined_of_looks {texts before looks : List String}
    (hlined : ∀ before, before <+: texts →
      ((start Catalog.empty).executeAll before).2.store.IsLined)
    (hbefore : before <+: texts) (hlooks : ∀ look ∈ looks, IsLook look) {first : List String}
    (hfirst : first <+: before ++ looks) :
    ((start Catalog.empty).executeAll first).2.store.IsLined := by
  rcases List.prefix_or_prefix_of_prefix hfirst (List.prefix_append before looks) with
    hshort | ⟨seen, rfl⟩
  · exact hlined first (hshort.trans hbefore)
  · have hseen : seen <+: looks := (List.prefix_append_right_inj before).mp hfirst
    have hlooked : ∀ look ∈ seen, IsLook look :=
      fun look hlook => hlooks look (hseen.subset hlook)
    rw [executeAll_append, store_executeAll_of_isLook hlooked]
    exact hlined before hbefore

/-! ## When a line does not come back -/

section

variable {σ : Type} [Store σ] {s : Session σ} {database : String}

theorem run_select (hs : s.selected = some database) (name : String) (columns : Selection)
    (condition : Option Condition) :
    (Action.select name columns condition).run s =
      (do let found ← Action.tableOf name (Store.read s.store database name)
          found.select columns condition, s) := by
  rw [Action.select, Action.table, Attempt.run_bind, Attempt.run_bind, run_lines hs]
  simp only [Attempt.run_ofExcept]
  cases Action.tableOf name (Store.read s.store database name) with
  | error fault => rfl
  | ok found => rfl

theorem eq_some_of_tableOf_eq_ok {name : String} {lines : List String} {found : Table}
    (h : Action.tableOf name lines = .ok found) : Table.ofLines? lines = some found := by
  unfold Action.tableOf at h
  split at h
  · next t ht =>
      cases h
      exact ht
  · cases h

/-- Rows that are shown are those of the table on the lines that are read. -/
theorem exists_of_perform_select (hs : s.selected = some database) {name : String}
    {columns : Selection} {condition : Option Condition} {shown : Table}
    (h : (s.perform (.select name columns condition)).1 = .rows shown) :
    ∃ found, Table.ofLines? (Store.read s.store database name) = some found ∧
      found.select columns condition = .ok shown := by
  rw [perform, Statement.action, Attempt.run_bind, run_select hs] at h
  split at h
  · next reply after hreply =>
      split at hreply
      · next t seen hrun =>
          cases hreply
          cases h
          obtain ⟨found, hfound, hanswer⟩ := exists_of_bind_eq_ok (Prod.mk.inj hrun).1
          exact ⟨found, eq_some_of_tableOf_eq_ok hfound, hanswer⟩
      · cases hreply
  · cases h

end

/-- Selecting a database is the same in files. -/
theorem execute_use_in_files {s : Session Catalog} (hs : s.IsNamed) {database : String}
    (hdatabase : IsFileName database) :
    (s.keptIn Root.top.keep).execute ("USE " ++ database ++ ";") =
      (s.execute ("USE " ++ database ++ ";")).map id (keptIn Root.top.keep) := by
  refine execute_keptIn fun statement hread => ?_
  cases (Statement.ofText_use hdatabase.isNameWord).symm.trans hread
  exact (Commutes.use hs.actsAlike hdatabase).bind
    fun _ _ => Commutes.pure _

/-- If files show a table of the selected database as it was written, its lines came
back. -/
theorem isLine_of_shown_in_files {s : Session Catalog} {l : Ledger} (hl : l.WellFormed)
    (hshown : l.ShownBy s) {database name : String} (hdatabase : IsFileName database)
    (hname : IsFileName name) {t : Table} (hselected : l.selected = some database)
    (ht : l.table? database name = some t)
    (h : ((s.keptIn Root.top.keep).execute ("SELECT * FROM " ++ name ++ ";")).1 = .rows t) :
    ∀ line ∈ t.toLines, Text.IsLine line := by
  rw [execute_of_ofText (Statement.ofText_select hname.isNameWord)] at h
  have hcurrent : (s.keptIn Root.top.keep).selected = some database :=
    hshown.selected.trans hselected
  obtain ⟨found, hfound, hanswer⟩ := exists_of_perform_select hcurrent h
  have hlines : Store.read (s.keptIn Root.top.keep).store database name =
      Text.lines (Text.ofLines t.toLines) := by
    change Store.read (Root.top.keep _) database name = _
    rw [Root.read_keep hdatabase.isEntryName hname.isEntryName, hshown.store,
      Ledger.read_toCatalog]
    rw [ht]
    rfl
  rw [hlines] at hfound
  exact (hl.table? ht).isLine_of_shown hfound hanswer

/-- Whoever selects the database and asks for all of a table sees in files what is on the
lines that come back. -/
theorem isLine_of_replies_eq {s : Session Catalog} (hs : s.IsNamed) {l : Ledger}
    (hl : l.WellFormed) (hshown : l.ShownBy s) {database name : String}
    (hdatabase : IsFileName database) (hname : IsFileName name) {t : Table}
    (ht : l.table? database name = some t)
    (h : ((s.keptIn Root.top.keep).executeAll
        ["USE " ++ database ++ ";", "SELECT * FROM " ++ name ++ ";"]).1 =
      (s.executeAll ["USE " ++ database ++ ";", "SELECT * FROM " ++ name ++ ";"]).1) :
    ∀ line ∈ t.toLines, Text.IsLine line := by
  have hselect := Statement.ofText_select hname.isNameWord
  have huse := Statement.ofText_use hdatabase.isNameWord
  -- The ledger selects the database too, and goes on to be shown.
  have hnamed : ∀ other ∈ some database, Token.isName other = true :=
    fun other hother => Option.mem_some.mp hother ▸ hdatabase.isNameWord.isName
  have hwell : ({ l with selected := some database } : Ledger).WellFormed :=
    Ledger.Every.mk hl.tables hnamed
  have hafter : ({ l with selected := some database } : Ledger).ShownBy
      (s.execute ("USE " ++ database ++ ";")).2 := by
    have hagree := (hl.agree_execute hshown ("USE " ++ database ++ ";")).shown
    rwa [Ledger.execute_of_ofText huse, Ledger.perform_use ht] at hagree
  have hrows : ((s.execute ("USE " ++ database ++ ";")).2.execute
      ("SELECT * FROM " ++ name ++ ";")).1 = .rows t := by
    rw [(hwell.agree_execute hafter ("SELECT * FROM " ++ name ++ ";")).reply,
      Ledger.execute_of_ofText hselect]
    exact Ledger.perform_select rfl ht (hl.table? ht)
  simp only [executeAll_cons, execute_use_in_files hs hdatabase] at h
  apply isLine_of_shown_in_files hwell hafter hdatabase hname rfl ht
  exact (List.cons.inj (List.cons.inj h).2).1.trans hrows

/-! ## Exactly as long as lines come back -/

theorem hasShortNames_of_ofText {text : String} {statement : Statement}
    (hread : Statement.ofText text = .ok statement)
    (h : ∀ name ∈ statement.names, name.utf8ByteSize ≤ FilePath.longestName) :
    HasShortNames text := by
  intro other hother
  cases hread.symm.trans hother
  exact h

/-- Until a line does not come back, whoever looks around sees the same in files. -/
theorem isLined_of_replies_eq {texts : List String}
    (hnames : ∀ text ∈ texts, HasShortNames text)
    (hlined : ∀ before text, before ++ [text] <+: texts →
      ((start Catalog.empty).executeAll before).2.store.IsLined)
    (h : ∀ looks, (∀ look ∈ looks, IsLook look ∧ HasShortNames look) →
      ((start Directory.empty).executeAll (texts ++ looks)).1 =
        ((start Catalog.empty).executeAll (texts ++ looks)).1) :
    ((start Catalog.empty).executeAll texts).2.store.IsLined := by
  intro key tables htables name lines hlines
  have hnamed := isNamed_start.executeAll hnames
  have hl := Ledger.wellFormed_empty.afterAll texts
  have hshown := Ledger.wellFormed_empty.shownBy_afterAll Ledger.shownBy_start texts
  obtain ⟨database, hdatabase, rfl⟩ := hnamed.store.database htables
  obtain ⟨table, htable, rfl⟩ := hnamed.store.table htables hlines
  rw [hshown.store] at htables
  obtain ⟨values, t, hvalues, ht, rfl⟩ := Ledger.exists_of_toCatalog htables hlines
  have hfound : (Ledger.empty.afterAll texts).table? database table = some t :=
    Option.bind_eq_some_iff.mpr ⟨values, hvalues, ht⟩
  have huse := Statement.ofText_use hdatabase.isNameWord
  have hselect := Statement.ofText_select htable.isNameWord
  apply isLine_of_replies_eq hnamed hl hshown hdatabase htable hfound
  have hreplies := h ["USE " ++ database ++ ";", "SELECT * FROM " ++ table ++ ";"] ?_
  · rw [executeAll_append, executeAll_append, executeAll_in_files hnames hlined] at hreplies
    exact List.append_cancel_left hreplies
  · intro look hlook
    rcases List.mem_cons.mp hlook with rfl | hlook
    · exact ⟨⟨_, huse, Or.inr ⟨database, rfl⟩⟩,
        hasShortNames_of_ofText huse (by simpa [Statement.names] using hdatabase.short)⟩
    · rw [List.mem_singleton.mp hlook]
      exact ⟨⟨_, hselect, Or.inl rfl⟩,
        hasShortNames_of_ofText hselect (by simpa [Statement.names] using htable.short)⟩

/-- **Files keep what a catalog keeps exactly as long as lines come back.**  For texts with
short names, a session over files that stops anywhere and looks around gives the replies of
one over a catalog, if and only if after each text every line that is kept is one line of a
file: no line feed in it, no carriage return at its end. -/
theorem replies_in_files_iff {texts : List String}
    (hnames : ∀ text ∈ texts, HasShortNames text) :
    (∀ before looks, before <+: texts →
      (∀ look ∈ looks, IsLook look ∧ HasShortNames look) →
        ((start Directory.empty).executeAll (before ++ looks)).1 =
          ((start Catalog.empty).executeAll (before ++ looks)).1) ↔
      ∀ before, before <+: texts →
        ((start Catalog.empty).executeAll before).2.store.IsLined := by
  constructor
  · -- Each text is carried out in a session whose lines came back before it.
    intro h before
    induction hlength : before.length using Nat.strong_induction_on generalizing before with
    | _ length ih =>
        intro hbefore
        refine isLined_of_replies_eq (fun text htext => hnames text (hbefore.subset htext)) ?_
          fun looks hlooks => h before looks hbefore hlooks
        intro first text hfirst
        have hle := hfirst.length_le
        rw [List.length_append, List.length_singleton] at hle
        have hbegins : first <+: before := (List.prefix_append first [text]).trans hfirst
        exact ih first.length (by omega) first rfl (hbegins.trans hbefore)
  · intro hlined before looks hbefore hlooks
    have hshort : ∀ text ∈ before ++ looks, HasShortNames text := by
      intro text htext
      rcases List.mem_append.mp htext with htext | htext
      · exact hnames text (hbefore.subset htext)
      · exact (hlooks text htext).2
    rw [executeAll_in_files hshort fun first text hfirst => ?_]
    · rfl
    · refine isLined_of_looks hlined hbefore (fun look hlook => (hlooks look hlook).1) ?_
      exact (List.prefix_append first [text]).trans hfirst

/-- Names this short leave the condition to the lines alone. -/
theorem replies_in_files_iff_insert :
    let texts := ["CREATE DATABASE d;", "USE d;", "CREATE TABLE t(c);",
      "INSERT INTO t VALUES ('x');"]
    (∀ text ∈ texts, HasShortNames text) ∧
      ((∀ before looks, before <+: texts →
        (∀ look ∈ looks, IsLook look ∧ HasShortNames look) →
          ((start Directory.empty).executeAll (before ++ looks)).1 =
            ((start Catalog.empty).executeAll (before ++ looks)).1) ↔
        ∀ before, before <+: texts →
          ((start Catalog.empty).executeAll before).2.store.IsLined) := by
  have hnames : ∀ text ∈ ["CREATE DATABASE d;", "USE d;", "CREATE TABLE t(c);",
      "INSERT INTO t VALUES ('x');"], HasShortNames text := by
    simp only [List.forall_mem_cons]
    refine ⟨?_, ?_, ?_, ?_, fun _ h => nomatch h⟩
    · exact hasShortNames_of_ofText
        (by decide +kernel : _ = Except.ok (Statement.createDatabase "d")) (by decide)
    · exact hasShortNames_of_ofText
        (by decide +kernel : _ = Except.ok (Statement.use "d")) (by decide)
    · exact hasShortNames_of_ofText
        (by decide +kernel : _ = Except.ok (Statement.createTable "t" ["c"])) (by decide)
    · exact hasShortNames_of_ofText
        (by decide +kernel : _ = Except.ok (Statement.insert "t" ["'x'"])) (by decide)
  exact ⟨hnames, replies_in_files_iff hnames⟩

/-- A line feed between quotes makes two lines of one row in a file, while a catalog keeps
the row. -/
theorem replies_in_files_ne_line_feed :
    ((start Directory.empty).executeAll ["CREATE DATABASE d;", "USE d;", "CREATE TABLE t(c);",
        "INSERT INTO t VALUES ('a\nb');", "SELECT * FROM t;"]).1 ≠
      ((start Catalog.empty).executeAll ["CREATE DATABASE d;", "USE d;", "CREATE TABLE t(c);",
        "INSERT INTO t VALUES ('a\nb');", "SELECT * FROM t;"]).1 := by
  decide +kernel

end TextTables.Session
