import TextTables.Proofs.Statement.Scanning
import TextTables.Proofs.Table.WellFormed
import TextTables.Statement.Reading

/-!
# What statements that are read can say

Several rules about tables are not checked where a statement is executed, but
where it is read: that no column of a new table is named twice or like the key,
that the key is not assigned, that no value holds a tab.  `Admissible` collects
what the execution of a statement relies on, and every statement that is read
from a text has it.  What is said of tabs holds of every foreign character that the
text does not have, and then the cause of a refusal does not repeat it either.
-/

namespace TextTables.Statement

open Scan
open Text (sameWord FreeOf Foreign)

variable {c : Char}

/-- The names of databases and tables in a statement. -/
def names : Statement → List String
  | use name | createDatabase name | dropDatabase name => [name]
  | createTable name _ | insert name _ | select name _ _ | update name _ _
  | delete name _ | alter name _ _ | dropTable name => [name]
  | join left right _ _ => [left, right]

/-- What the execution of a statement relies on, with values that do not hold the
character. -/
def Admissible (c : Char) : Statement → Prop
  | createTable _ columns => Table.AreColumns columns
  | insert _ values => ∀ value ∈ values, FreeOf c value
  | select _ (.columns names) _ => ∀ name ∈ names, Token.IsNameWord name
  | update _ assignments _ => ∀ assignment ∈ assignments,
      sameWord assignment.1 Table.keyColumn = false ∧ FreeOf c assignment.2
  | alter _ _ column => Token.isName column = true
  | use _ | createDatabase _ | select _ .all _ | delete _ _ | dropTable _ | dropDatabase _
  | join _ _ _ _ => True

/-- What every statement is like that is read from a text without the character. -/
structure WellRead (c : Char) (statement : Statement) : Prop where
  names : ∀ name ∈ statement.names, Token.IsNameWord name
  admissible : statement.Admissible c

/-! ## Columns of a new table -/

/-- The invariant of the columns read so far, last first. -/
def AreColumnsSoFar (before : List String) : Prop :=
  (∀ column ∈ before, Token.isName column = true ∧ sameWord column Table.keyColumn = false) ∧
    before.Pairwise fun a b => sameWord a b = false

theorem areColumnsSoFar_nil : AreColumnsSoFar [] :=
  ⟨List.forall_mem_nil _, List.Pairwise.nil⟩

theorem AreColumnsSoFar.areColumns_reverse {before : List String}
    (h : AreColumnsSoFar before) : Table.AreColumns before.reverse := by
  refine ⟨fun column hcolumn => (h.1 column (List.mem_reverse.mp hcolumn)).1, ?_⟩
  refine List.pairwise_cons.mpr ⟨?_, ?_⟩
  · intro column hcolumn
    rw [Text.sameWord_comm]
    exact (h.1 column (List.mem_reverse.mp hcolumn)).2
  · rw [List.pairwise_reverse]
    refine h.2.imp fun hne => ?_
    rw [Text.sameWord_comm]
    exact hne

theorem yields_newColumn (hc : Foreign c) {before : List String}
    (hbefore : AreColumnsSoFar before) :
    Yields c (newColumn before) fun column => AreColumnsSoFar (column :: before) := by
  refine (yields_name hc).bind fun column hname => ?_
  split
  · have hfree := hc.freeOf_of_isName hname.isName
    exact yields_fail (Fault.avoids_of_words_eq_singleton nofun rfl hfree)
  · next hnew =>
      simp only [Bool.or_eq_true, not_or, Bool.not_eq_true, List.any_eq_false] at hnew
      refine yields_pure ⟨?_, ?_⟩
      · intro other hother
        rcases List.mem_cons.mp hother with rfl | hother
        · exact ⟨hname.isName, hnew.1⟩
        · exact hbefore.1 other hother
      · refine List.pairwise_cons.mpr ⟨?_, hbefore.2⟩
        intro other hother
        rw [Text.sameWord_comm]
        exact hnew.2 other hother

theorem yields_newColumns (hc : Foreign c) : Yields c newColumns Table.AreColumns := by
  refine (yields_accept .symbol "(").bind fun found _ => ?_
  cases found with
  | true =>
      refine (yields_list areColumnsSoFar_nil fun _ => yields_newColumn hc).bind
        fun columns hcolumns => ?_
      refine (yields_mark .symbol ")").bind fun _ _ => ?_
      apply yields_pure
      have hnew := hcolumns.areColumns_reverse
      rwa [List.reverse_reverse] at hnew
  | false => exact yields_pure ⟨List.forall_mem_nil _, List.pairwise_singleton _ _⟩

/-! ## Lists of entries that are read alike -/

/-- Where no entry depends on those before it, all entries are alike. -/
theorem yields_list_of_forall {α : Type} {Q : α → Prop} {entry : Scan α}
    (h : Yields c entry Q) :
    Yields c (Scan.list fun _ => entry) fun found => ∀ a ∈ found, Q a := by
  have hlist : Yields c (Scan.list fun _ => entry) fun found => ∀ a ∈ found.reverse, Q a := by
    refine yields_list (I := fun before => ∀ a ∈ before, Q a) ?_ ?_
    · intro a ha
      cases ha
    · intro before hbefore
      refine h.mono fun a ha b hb => ?_
      rcases List.mem_cons.mp hb with rfl | hb
      · exact ha
      · exact hbefore b hb
  exact hlist.mono fun found hfound a ha => hfound a (List.mem_reverse.mpr ha)

theorem yields_assignment (hc : Foreign c) :
    Yields c assignment fun entry =>
      sameWord entry.1 Table.keyColumn = false ∧ FreeOf c entry.2 := by
  refine (yields_name hc).bind fun column _ => ?_
  split
  · exact yields_fail (Fault.avoids_of_words_eq_nil nofun rfl)
  · next hkey =>
      refine (yields_mark .symbol "=").bind fun _ _ => ?_
      refine (yields_value hc _).bind fun assigned hassigned => ?_
      exact yields_pure ⟨Bool.eq_false_iff.mpr hkey, hassigned⟩

/-! ## The routines -/

theorem forall_mem_singleton {α : Type} {Q : α → Prop} {a : α} (h : Q a) :
    ∀ b ∈ [a], Q b := by
  intro b hb
  rwa [List.mem_singleton.mp hb]

theorem yields_readUse (hc : Foreign c) : Yields c readUse (WellRead c) := by
  refine (yields_keyword hc "USE" (by decide)).bind fun _ _ => ?_
  refine (yields_name hc).bind fun database hdatabase => ?_
  refine yields_finish.bind fun _ _ => ?_
  exact yields_pure ⟨forall_mem_singleton hdatabase, trivial⟩

theorem yields_readCreateDatabase (hc : Foreign c) : Yields c readCreateDatabase (WellRead c) := by
  refine (yields_keyword hc "CREATE" (by decide)).bind fun _ _ => ?_
  refine (yields_keyword hc "DATABASE" (by decide)).bind fun _ _ => ?_
  refine (yields_name hc).bind fun database hdatabase => ?_
  refine yields_finish.bind fun _ _ => ?_
  exact yields_pure ⟨forall_mem_singleton hdatabase, trivial⟩

theorem yields_readCreateTable (hc : Foreign c) : Yields c readCreateTable (WellRead c) := by
  refine (yields_keyword hc "CREATE" (by decide)).bind fun _ _ => ?_
  refine (yields_keyword hc "TABLE" (by decide)).bind fun _ _ => ?_
  refine (yields_name hc).bind fun table htable => ?_
  refine (yields_newColumns hc).bind fun columns hcolumns => ?_
  refine yields_finish.bind fun _ _ => ?_
  exact yields_pure ⟨forall_mem_singleton htable, hcolumns⟩

theorem yields_readInsert (hc : Foreign c) : Yields c readInsert (WellRead c) := by
  refine (yields_keyword hc "INSERT" (by decide)).bind fun _ _ => ?_
  refine (yields_keyword hc "INTO" (by decide)).bind fun _ _ => ?_
  refine (yields_name hc).bind fun table htable => ?_
  refine (yields_keyword hc "VALUES" (by decide)).bind fun _ _ => ?_
  refine (yields_mark .symbol "(").bind fun _ _ => ?_
  refine (yields_list_of_forall (yields_value hc _)).bind fun values hvalues => ?_
  refine (yields_mark .symbol ")").bind fun _ _ => ?_
  refine yields_finish.bind fun _ _ => ?_
  exact yields_pure ⟨forall_mem_singleton htable, hvalues⟩

theorem yields_selection (hc : Foreign c) :
    Yields c selection fun columns => ∀ table rows, Admissible c (.select table columns rows) := by
  refine (yields_accept .symbol "*").bind fun found _ => ?_
  cases found with
  | true => exact yields_pure fun _ _ => trivial
  | false =>
      refine (yields_list_of_forall (yields_name hc)).bind fun names hnames => ?_
      exact yields_pure fun _ _ => hnames

theorem yields_readSelect (hc : Foreign c) : Yields c readSelect (WellRead c) := by
  refine (yields_keyword hc "SELECT" (by decide)).bind fun _ _ => ?_
  refine (yields_selection hc).bind fun columns hcolumns => ?_
  refine (yields_mark .keyword "FROM").bind fun _ _ => ?_
  refine (yields_name hc).bind fun table htable => ?_
  refine yields_condition.bind fun rows _ => ?_
  refine yields_finish.bind fun _ _ => ?_
  exact yields_pure ⟨forall_mem_singleton htable, hcolumns _ _⟩

theorem yields_readUpdate (hc : Foreign c) : Yields c readUpdate (WellRead c) := by
  refine (yields_keyword hc "UPDATE" (by decide)).bind fun _ _ => ?_
  refine (yields_name hc).bind fun table htable => ?_
  refine (yields_keyword hc "SET" (by decide)).bind fun _ _ => ?_
  refine (yields_list_of_forall (yields_assignment hc)).bind fun assignments hassignments => ?_
  refine yields_condition.bind fun rows _ => ?_
  refine yields_finish.bind fun _ _ => ?_
  exact yields_pure ⟨forall_mem_singleton htable, hassignments⟩

theorem yields_readDelete (hc : Foreign c) : Yields c readDelete (WellRead c) := by
  refine (yields_keyword hc "DELETE" (by decide)).bind fun _ _ => ?_
  refine (yields_keyword hc "FROM" (by decide)).bind fun _ _ => ?_
  refine (yields_name hc).bind fun table htable => ?_
  refine yields_condition.bind fun rows _ => ?_
  refine yields_finish.bind fun _ _ => ?_
  exact yields_pure ⟨forall_mem_singleton htable, trivial⟩

theorem yields_alteration : Yields c alteration fun _ => True := by
  refine (yields_accept .keyword "ADD").bind fun adds _ => ?_
  cases adds with
  | true => exact yields_pure trivial
  | false =>
      refine (yields_accept .keyword "DROP").bind fun drops _ => ?_
      cases drops with
      | true => exact yields_pure trivial
      | false => exact yields_fail (Fault.avoids_of_words_eq_nil nofun rfl)

theorem yields_readAlter (hc : Foreign c) : Yields c readAlter (WellRead c) := by
  refine (yields_keyword hc "ALTER" (by decide)).bind fun _ _ => ?_
  refine (yields_keyword hc "TABLE" (by decide)).bind fun _ _ => ?_
  refine (yields_name hc).bind fun table htable => ?_
  refine yields_alteration.bind fun change _ => ?_
  refine (yields_name hc).bind fun column hcolumn => ?_
  refine yields_finish.bind fun _ _ => ?_
  exact yields_pure ⟨forall_mem_singleton htable, hcolumn.isName⟩

theorem yields_dropped (hc : Foreign c) : Yields c dropped (WellRead c) := by
  refine (yields_value hc [.keyword]).bind fun object _ => ?_
  split
  · refine (yields_name hc).bind fun table htable => ?_
    exact yields_pure ⟨forall_mem_singleton htable, trivial⟩
  · split
    · refine (yields_name hc).bind fun database hdatabase => ?_
      exact yields_pure ⟨forall_mem_singleton hdatabase, trivial⟩
    · exact yields_fail (Fault.avoids_of_words_eq_nil nofun rfl)

theorem yields_readDrop (hc : Foreign c) : Yields c readDrop (WellRead c) := by
  refine (yields_keyword hc "DROP" (by decide)).bind fun _ _ => ?_
  refine (yields_dropped hc).bind fun statement hstatement => ?_
  refine yields_finish.bind fun _ _ => ?_
  exact yields_pure hstatement

theorem yields_readJoin (hc : Foreign c) : Yields c readJoin (WellRead c) := by
  refine (yields_keyword hc "JOIN" (by decide)).bind fun _ _ => ?_
  refine (yields_name hc).bind fun left hleft => ?_
  refine (yields_mark .logicalOperator "AND").bind fun _ _ => ?_
  refine (yields_name hc).bind fun right hright => ?_
  refine (yields_mark .keyword "ON").bind fun _ _ => ?_
  refine (yields_name hc).bind fun leftColumn _ => ?_
  refine (yields_mark .logicalOperator "AND").bind fun _ _ => ?_
  refine (yields_name hc).bind fun rightColumn _ => ?_
  refine yields_finish.bind fun _ _ => ?_
  refine yields_pure ⟨?_, trivial⟩
  intro name hname
  rcases List.mem_cons.mp hname with rfl | hname
  · exact hleft
  · exact forall_mem_singleton hright name hname

theorem yields_formScan (hc : Foreign c) (form : Form) : Yields c form.scan (WellRead c) := by
  cases form with
  | use => exact yields_readUse hc
  | createDatabase => exact yields_readCreateDatabase hc
  | createTable => exact yields_readCreateTable hc
  | insert => exact yields_readInsert hc
  | select => exact yields_readSelect hc
  | update => exact yields_readUpdate hc
  | delete => exact yields_readDelete hc
  | alter => exact yields_readAlter hc
  | drop => exact yields_readDrop hc
  | join => exact yields_readJoin hc

theorem satisfies_form (tokens : List Token) :
    Satisfies (Fault.Avoids c) (fun _ => True) (Form.ofTokens tokens) := by
  unfold Form.ofTokens
  repeat' split
  all_goals first
    | exact .ok trivial
    | exact .error (Fault.avoids_of_words_eq_nil nofun rfl)

theorem satisfies_ofTokens (hc : Foreign c) {tokens : List Token}
    (htokens : ∀ token ∈ tokens, token.LexedFree c) :
    Satisfies (Fault.Avoids c) (WellRead c) (ofTokens tokens) := by
  have hscan : Yields c (Routine.any.scan tokens) (WellRead c) :=
    (yields_ofExcept (satisfies_form tokens)).bind fun form _ => yields_formScan hc form
  exact (hscan tokens htokens).1

/-- A text without a foreign character is read as a statement that does not hold it
either, or it is refused for a cause that does not repeat it. -/
theorem satisfies_ofText (hc : Foreign c) {text : String} (htext : FreeOf c text) :
    Satisfies (Fault.Avoids c) (WellRead c) (ofText text) :=
  (Token.satisfies_ofText hc htext).bind fun _ htokens => satisfies_ofTokens hc htokens

/-- Every statement that is read from a text is as its execution relies on. -/
theorem wellRead_of_ofText {text : String} {statement : Statement}
    (h : ofText text = .ok statement) : statement.WellRead '\t' := by
  obtain ⟨tokens, htokens, h⟩ := exists_of_bind_eq_ok h
  refine (satisfies_ofTokens Text.foreign_tab fun token htoken => ?_).of_eq_ok h
  exact (Token.lexed_of_ofText htokens token htoken).lexedFree

end TextTables.Statement
