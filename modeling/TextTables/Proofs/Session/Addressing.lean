import TextTables.Proofs.Session.Effects
import TextTables.Proofs.Statement.Composed
import TextTables.Proofs.Table.Addressing
import TextTables.Proofs.Text.Case

/-!
# Statements about the row with an id

The digits of an id are a token of their own, and `id == n` is read as the condition that
compares the first cells of the rows with `n`.  So a query, a removal and an update with this
condition work on the rows whose ids have the same nearest double as `n`, over every store and
in every state in which the table is read.
-/

namespace TextTables

open Grammar (Assigned Listed)

namespace Token

/-! ## Digits -/

/-- Digits are the same word as nothing that has no digits. -/
theorem sameWord_eq_false_of_areDigits {word other : String}
    (h : Decimal.areDigits word.toList = true)
    (hother : other.toList.all (!·.isDigit) = true) : Text.sameWord word other = false := by
  rw [Bool.eq_false_iff]
  intro hsame
  obtain ⟨hne, hdigits⟩ := Decimal.areDigits_iff.mp h
  obtain ⟨c, hc⟩ := List.exists_mem_of_ne_nil _ hne
  have hletter : c.isAlpha = false := by
    rw [Bool.eq_false_iff]
    intro halpha
    have hdigit := hdigits c hc
    rw [not_isDigit_of_isAlpha halpha] at hdigit
    cases hdigit
  have hmem : c.toLower ∈ Text.folded other :=
    Text.sameWord_iff.mp hsame ▸ List.mem_map_of_mem hc
  obtain ⟨d, hd, hlower⟩ := List.mem_map.mp hmem
  rw [(Text.toLower_eq_iff hletter).mpr rfl, Text.toLower_eq_iff hletter] at hlower
  have hnot := List.all_eq_true.mp hother d hd
  rw [hlower, hdigits c hc] at hnot
  cases hnot

theorem contains_eq_false_of_areDigits {word : String} (h : Decimal.areDigits word.toList = true)
    {marks : List String} (hmarks : ∀ mark ∈ marks, mark.toList.all (!·.isDigit) = true) :
    marks.contains word = false := by
  rw [List.contains_eq_mem, decide_eq_false_iff_not]
  intro hmem
  have hself := sameWord_eq_false_of_areDigits h (hmarks word hmem)
  rw [Text.sameWord_refl] at hself
  cases hself

theorem classify_of_areDigits {word : String} (h : Decimal.areDigits word.toList = true) :
    classify word = .ok .number := by
  have hkeyword : isKeyword word = false := by
    have hwords : ∀ keyword ∈ keywords, keyword.toList.all (!·.isDigit) = true := by decide
    rw [isKeyword, List.any_eq_false]
    intro keyword hmem
    rw [sameWord_eq_false_of_areDigits h (hwords keyword hmem)]
    exact Bool.false_ne_true
  have hlogical : isLogicalOperator word = false := by
    rw [isLogicalOperator, sameWord_eq_false_of_areDigits h (by decide),
      sameWord_eq_false_of_areDigits h (by decide), Bool.or_false]
  have hsymbol : isSymbol word = false := contains_eq_false_of_areDigits h (by decide)
  have hoperator : isOperator word = false := contains_eq_false_of_areDigits h (by decide)
  have hnumeral : Decimal.isNumeral word = true := by
    rw [Decimal.isNumeral, Decimal.ofText?_of_areDigits h]
    rfl
  simp [classify, hkeyword, hsymbol, hlogical, hoperator, hnumeral]

theorem ofText_of_areDigits {word : String} (h : Decimal.areDigits word.toList = true) :
    ofText word = .ok [⟨.number, word⟩] := by
  have hname : isName word = true := by
    obtain ⟨hne, hdigits⟩ := Decimal.areDigits_iff.mp h
    exact isName_iff.mpr ⟨hne, fun c hc => by
      rw [isNameChar, Char.isAlphanum, hdigits c hc, Bool.or_true, Bool.true_or]⟩
  rw [ofText, Fragment.ofText_of_isName hname, ok_bind, List.mapM_cons, ofFragment,
    classify_of_areDigits h]
  rfl

theorem stripQuotes_of_areDigits {word : String} (h : Decimal.areDigits word.toList = true) :
    stripQuotes word = word := by
  obtain ⟨hne, hdigits⟩ := Decimal.areDigits_iff.mp h
  obtain ⟨c, rest, hword⟩ := List.exists_cons_of_ne_nil hne
  have hquote : (c == Fragment.quote) = false := by
    apply beq_false_of_ne
    rintro rfl
    exact absurd (hdigits Fragment.quote (hword ▸ List.mem_cons_self)) (by decide)
  rw [stripQuotes, hword, unquoted?, hquote]
  rfl

end Token

namespace Grammar

/-- Where no token is a mark, none ends the statement and none is a parenthesis. -/
theorem plain_and_balanced (tokens : List Token)
    (h : ∀ token ∈ tokens, token.category ≠ .symbol) : Plain tokens ∧ Balanced 0 tokens := by
  have hnone : ∀ mark, ∀ token ∈ tokens, ¬Mark mark token :=
    fun mark token htoken hmark => h token htoken (category_of_is hmark)
  have hmarks : ∀ mark, marks mark tokens = 0 :=
    fun mark => List.countP_eq_zero.mpr (hnone mark)
  refine ⟨hnone ";", ?_, ?_⟩
  · intro before hbefore
    have hle : marks ")" before ≤ marks ")" tokens := hbefore.sublist.countP_le
    rw [hmarks] at hle
    exact hle.trans (Nat.zero_le _)
  · rw [hmarks, hmarks]

end Grammar

namespace Statement

/-- The text `id == n` is read as the condition of this name. -/
theorem asksFor_byId {n : Int} (hn : Whole.IsId n) :
    AsksFor ("id == " ++ Whole.toText n) (some (.byId n)) := by
  have hdigits : Decimal.areDigits (Whole.toText n).toList = true := hn.areDigits_toText
  have hwords : Token.ofText "WHERE id ==" =
      .ok [⟨.keyword, "WHERE"⟩, ⟨.identifier, "id"⟩, ⟨.operator, "=="⟩] := by decide +kernel
  have htokens := Token.ofText_append_semicolon
    (Token.ofText_spaced hwords (Token.ofText_of_areDigits hdigits))
  have htext : "WHERE " ++ ("id == " ++ Whole.toText n) ++ ";" =
      "WHERE id ==" ++ " " ++ Whole.toText n ++ ";" := by
    simp [← String.toList_inj]
  have hcondition : Condition.ofTokens
      [⟨.identifier, "id"⟩, ⟨.operator, "=="⟩, ⟨.number, Whole.toText n⟩] = .ok (.byId n) := by
    have hleaf : Condition.ofTokens
        [⟨.identifier, "id"⟩, ⟨.operator, "=="⟩, ⟨.number, Whole.toText n⟩] =
        .ok (.test "id" "==" (Token.stripQuotes (Whole.toText n))) := rfl
    rw [hleaf, Token.stripQuotes_of_areDigits hdigits]
    rfl
  obtain ⟨hplain, hbalanced⟩ := Grammar.plain_and_balanced
    [⟨.identifier, "id"⟩, ⟨.operator, "=="⟩, ⟨.number, Whole.toText n⟩] (by simp)
  have hclause : Grammar.Clause
      [⟨.keyword, "WHERE"⟩, ⟨.identifier, "id"⟩, ⟨.operator, "=="⟩, ⟨.number, Whole.toText n⟩]
      (some (.byId n)) := .given rfl hplain hbalanced hcondition
  exact ⟨_, ⟨.symbol, ";"⟩, htext ▸ htokens, hclause, rfl⟩

end Statement

namespace Session

variable {σ : Type} [Store σ] {s : Session σ} {database : String}

/-- What a statement comes to that puts another table in the place of one. -/
def rewritten (s : Session σ) (database name : String) (changed : Table) : Reply × Session σ :=
  let (result, store) := Store.write s.store database name changed.toLines
  let reply :=
    match result with
    | .ok () => Reply.done
    | .error fault => .refused fault
  (reply, { s with store := store })

section

variable {name : String} {t : Table}

/-- A statement that makes another table of one replaces it, or is refused. -/
theorem perform_changeTable {statement : Statement} {f : Table → Except Fault Table}
    (haction : Statement.action (σ := σ) statement =
      Action.changeTable name f >>= fun _ => pure Reply.done)
    (hselected : s.selected = some database)
    (ht : Table.ofLines? (Store.read s.store database name) = some t) :
    s.perform statement =
      match f t with
      | .ok changed => s.rewritten database name changed
      | .error fault => (.refused fault, s) := by
  have hput : ∀ lines, (Action.put name lines : Action σ Unit).run s =
      ((Store.write s.store database name lines).1,
        { s with store := (Store.write s.store database name lines).2 }) := by
    intro lines
    rw [Action.put, Attempt.run_bind, run_current hselected]
    rfl
  rw [perform, haction, Attempt.run_bind, Action.changeTable, Attempt.run_bind,
    run_table hselected ht]
  simp only [Attempt.run_bind, Attempt.run_ofExcept]
  cases f t with
  | error fault => rfl
  | ok changed =>
      simp only [hput, rewritten]
      cases Store.write s.store database name changed.toLines with
      | mk result store =>
          cases result with
          | ok => rfl
          | error fault => rfl

theorem perform_select {columns : Selection} {condition : Option Condition} {shown : Table}
    (hselected : s.selected = some database)
    (ht : Table.ofLines? (Store.read s.store database name) = some t)
    (hshown : t.select columns condition = .ok shown) :
    s.perform (.select name columns condition) = (.rows shown, s) := by
  have hselect : (Action.select name columns condition).run s = (.ok shown, s) := by
    rw [Action.select, Attempt.run_bind, run_table hselected ht]
    simp only [Attempt.run_ofExcept, hshown]
  rw [perform, Statement.action, Attempt.run_bind, hselect]
  rfl

end

/-- **Rows are addressed by the nearest double of their id.**  Over every store, where a table
of rows with different ids is read, a query with the condition `id == n` shows some of its
rows, a removal with it writes the table without them, which is read again, and an update with
it writes the table in which they, and no others, are as an update without a condition makes
them.  They are the rows whose ids have the same nearest double as `n`.  So they are the rows
with the id `n`, of which there is one or none, exactly if no other id of the table has this
double, and always if `n` or all of the ids have at most 53 binary digits. -/
theorem rows_addressed {s : Session σ} {database table : String} {t : Table} {ids : List Int}
    {n : Int} (hselected : s.selected = some database)
    (ht : Table.ofLines? (Store.read s.store database table) = some t)
    (hids : t.Identified ids) (hn : Whole.IsId n) (htable : Token.IsNameWord table) :
    let rows := "id == " ++ Whole.toText n
    ∃ found,
      s.execute ("SELECT * FROM " ++ table ++ " WHERE " ++ rows ++ ";") =
        (.rows { t with rows := found }, s) ∧
      found = t.rows.filter (· ∈ found) ∧
      (let left : Table := { t with rows := t.rows.filter (· ∉ found) }
       s.execute ("DELETE FROM " ++ table ++ " WHERE " ++ rows ++ ";") =
         s.rewritten database table left ∧ Table.ofLines? left.toLines = some left) ∧
      (∀ sets tokens assignments, Token.ofText sets = .ok tokens →
        Listed Assigned tokens assignments →
        s.execute ("UPDATE " ++ table ++ " SET " ++ sets ++ " WHERE " ++ rows ++ ";") =
          match t.update assignments none with
          | .error fault => (.refused fault, s)
          | .ok all => s.rewritten database table {
              t with
              rows := List.zipWith (fun row after => if row ∈ found then after else row)
                t.rows all.rows }) ∧
      (∀ row ∈ t.rows, ∀ id, Whole.IsId id → row.head? = some (Whole.toText id) →
        (row ∈ found ↔ Whole.SameDouble id n)) ∧
      (t.withId n).length = (if n ∈ ids then 1 else 0) ∧
      (found = t.withId n ↔ ∀ id ∈ ids, Whole.SameDouble id n → id = n) ∧
      (n < 2 ^ Double.precision ∨ (∀ id ∈ ids, id < 2 ^ Double.precision) →
        found = t.withId n) := by
  intro rows
  have hasks := Statement.asksFor_byId hn
  refine ⟨t.meeting (.byId n), ?_, t.meeting_eq_filter_mem _, ⟨?_, ?_⟩, ?_, ?_,
    hids.length_withId hn, hids.meeting_byId_eq_withId_iff hn, hids.meeting_byId_eq_withId hn⟩
  · rw [execute_of_ofText (hasks.ofText_select htable)]
    exact perform_select hselected ht (Table.select_all_eq_of_forall_length hids.row_length _)
  · rw [execute_of_ofText (hasks.ofText_delete htable), ← Table.delete_eq_filter_not_mem]
    exact perform_changeTable (f := fun t => .ok (t.delete (some (.byId n)))) rfl hselected ht
  · exact hids.ofLines?_toLines_filter ht _
  · intro sets tokens assignments hsets hassignments
    rw [execute_of_ofText (hasks.ofText_update htable hsets hassignments),
      perform_changeTable (f := fun t => t.update assignments (some (.byId n))) rfl hselected ht,
      Table.update_some_eq]
    cases t.update assignments none with
    | error fault => rfl
    | ok all => rfl
  · intro row hrow id hid hhead
    exact hids.mem_meeting_byId_iff hn hrow hid hhead

/-- A table whose ids do not rise, and the one row with the id `2`. -/
theorem rows_addressed_of_two :
    let s : Session Catalog := ⟨⟨Dict.empty.insert "d" (Dict.empty.insert "t"
      ["id\tc", "2\tx", "1\ty"])⟩, some "d", .empty⟩
    s.execute "SELECT * FROM t WHERE id == 2;" = (.rows ⟨["id", "c"], [["2", "x"]]⟩, s) ∧
      s.execute "DELETE FROM t WHERE id == 2;" =
        s.rewritten "d" "t" ⟨["id", "c"], [["1", "y"]]⟩ ∧
      s.execute "UPDATE t SET c = 'z' WHERE id == 2;" =
        s.rewritten "d" "t" ⟨["id", "c"], [["2", "z"], ["1", "y"]]⟩ := by
  intro s
  let t : Table := ⟨["id", "c"], [["2", "x"], ["1", "y"]]⟩
  have ht : Table.ofLines? (Store.read s.store "d" "t") = some t := by decide +kernel
  have hids : t.Identified [2, 1] :=
    ⟨rfl, by decide, by decide +kernel, by decide, by decide +kernel⟩
  have hsets : Token.ofText "c = 'z'" =
      .ok [⟨.identifier, "c"⟩, ⟨.symbol, "="⟩, ⟨.string, "'z'"⟩] := by decide +kernel
  have hassigned : Assigned [⟨.identifier, "c"⟩, ⟨.symbol, "="⟩, ⟨.string, "'z'"⟩] ("c", "'z'") :=
    .intro ⟨rfl, by decide +kernel, rfl⟩ rfl rfl (.plain (by decide) (by decide +kernel))
  obtain ⟨found, hshown, _, ⟨hremoved, _⟩, hupdated, _, _, _, hfound⟩ :=
    rows_addressed (s := s) (n := 2) rfl ht hids (by decide)
      ⟨by decide +kernel, by decide, by decide⟩
  have hsecond : t.withId 2 = [["2", "x"]] := by decide +kernel
  rw [hfound (Or.inl (by decide)), hsecond] at hshown hremoved hupdated
  have hleft : t.rows.filter (· ∉ [["2", "x"]]) = [["1", "y"]] := by decide +kernel
  have hall : t.update [("c", "'z'")] none = .ok ⟨["id", "c"], [["2", "z"], ["1", "z"]]⟩ := by
    decide +kernel
  have hupdate := hupdated "c = 'z'" _ _ hsets (.last hassigned)
  rw [hleft] at hremoved
  rw [hall] at hupdate
  exact ⟨hshown, hremoved, hupdate⟩

/-- Two ids of 54 binary digits with one nearest double.  What asks for the second row finds
the first one too, and takes it out. -/
theorem rows_addressed_ne_withId :
    let t : Table := ⟨["id", "c"], [["9007199254740992", "a"], ["9007199254740993", "b"]]⟩
    let s : Session Catalog := ⟨⟨Dict.empty.insert "d" (Dict.empty.insert "t"
      ["id\tc", "9007199254740992\ta", "9007199254740993\tb"])⟩, some "d", .empty⟩
    t.WellFormed ∧ t.Identified [9007199254740992, 9007199254740993] ∧
      Table.ofLines? (Store.read s.store "d" "t") = some t ∧
      t.withId 9007199254740993 = [["9007199254740993", "b"]] ∧
      (s.execute "SELECT * FROM t WHERE id == 9007199254740993;").1 = .rows t ∧
      let removed := s.execute "DELETE FROM t WHERE id == 9007199254740993;"
      removed.1 = .done ∧
        Table.ofLines? (Store.read removed.2.store "d" "t") = some ⟨["id", "c"], []⟩ := by
  intro t s
  have hids : t.Identified [9007199254740992, 9007199254740993] :=
    ⟨rfl, by decide, by decide +kernel, by decide, by decide +kernel⟩
  have ht : Table.ofLines? (Store.read s.store "d" "t") = some t := by decide +kernel
  refine ⟨⟨⟨["c"], rfl, ?_⟩, hids.row_length, (Table.tabFree_of_ofLines? ht).2, ?_⟩, hids, ht, ?_⟩
  · exact ⟨by decide, by decide⟩
  · exact ⟨_, hids.heads, by decide, hids.isId⟩
  · decide +kernel

end Session

end TextTables
