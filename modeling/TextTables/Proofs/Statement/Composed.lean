import TextTables.Proofs.Statement.Admissible
import TextTables.Proofs.Statement.Spelling
import TextTables.Proofs.Token.Adjacent

/-!
# Statements put together

The tokens of a statement that is put together from words and names are those of its parts,
so it can be told which statement is read, whatever the names are.  A query, a change and a
removal of rows all end with `WHERE` and a condition, and it is read the same way in each:
a text that is accepted as the condition of a query is accepted in the other statements, and
it asks for the same rows there.
-/

namespace TextTables

open Grammar

namespace Token

theorem IsNameWord.ofText {word : String} (h : IsNameWord word) :
    ofText word = .ok [⟨.identifier, word⟩] :=
  ofText_of_classify h.classify_eq

theorem IsNameWord.names {word : String} (h : IsNameWord word) :
    Names ⟨.identifier, word⟩ word := by
  refine ⟨rfl, ?_, rfl⟩
  rintro (htrue | hfalse)
  · exact Bool.false_ne_true (h.ne_true.symm.trans htrue)
  · exact Bool.false_ne_true (h.ne_false.symm.trans hfalse)

theorem Names.isNameWord {token : Token} {name : String} (h : token.Names name)
    (htoken : token.Lexed) : IsNameWord name := by
  obtain ⟨hcategory, htruth, rfl⟩ := h
  obtain ⟨hneTrue, hneFalse⟩ := not_or.mp htruth
  exact ⟨hcategory ▸ htoken.classify_eq, Bool.eq_false_iff.mpr hneTrue,
    Bool.eq_false_iff.mpr hneFalse⟩

/-- The tokens of a statement with a condition are those of the command, and then those of
the rest from `WHERE` on. -/
theorem ofText_where {command : String} {tokens : List Token} (h : ofText command = .ok tokens)
    (rows : String) :
    ofText (command ++ " WHERE " ++ rows ++ ";") =
      (ofText ("WHERE " ++ rows ++ ";")).map (tokens ++ ·) := by
  have hwhere : " WHERE " = " " ++ "WHERE " := rfl
  have htext : command ++ " WHERE " ++ rows ++ ";" =
      command ++ " " ++ ("WHERE " ++ rows ++ ";") := by
    simp only [hwhere, String.append_assoc]
  rw [htext, ofText_append_space h]

/-- The tokens of two texts with a space between them. -/
theorem ofText_spaced {before after : String} {tokens more : List Token}
    (hbefore : ofText before = .ok tokens) (hafter : ofText after = .ok more) :
    ofText (before ++ " " ++ after) = .ok (tokens ++ more) := by
  rw [ofText_append_space hbefore, hafter]
  rfl

end Token

namespace Statement

variable {table rows sets : String} {condition : Option Condition}

/-- What ends a statement from `WHERE` on is read as this condition. -/
def AsksFor (rows : String) (condition : Option Condition) : Prop :=
  ∃ clause last, Token.ofText ("WHERE " ++ rows ++ ";") = .ok (clause ++ [last]) ∧
    Clause clause condition ∧ Mark ";" last

/-- A text is read as the statement that its tokens spell. -/
theorem ofText_of_spells {text : String} {tokens : List Token} {form : Form}
    {statement : Statement} (h : Token.ofText text = .ok tokens)
    (hspells : Spells form tokens statement) : ofText text = .ok statement := by
  rw [ofText, h]
  exact (ofTokens_eq_ok_iff (Token.lexed_of_ofText h)).mpr ⟨form, hspells⟩

/-! ## Commands -/

theorem ofText_selectCommand (h : Token.IsNameWord table) :
    Token.ofText ("SELECT * FROM " ++ table) =
      .ok [⟨.keyword, "SELECT"⟩, ⟨.symbol, "*"⟩, ⟨.keyword, "FROM"⟩, ⟨.identifier, table⟩] := by
  have hwords : Token.ofText "SELECT * FROM" =
      .ok [⟨.keyword, "SELECT"⟩, ⟨.symbol, "*"⟩, ⟨.keyword, "FROM"⟩] := by decide +kernel
  have hspace : "SELECT * FROM " = "SELECT * FROM" ++ " " := rfl
  rw [hspace, Token.ofText_spaced hwords h.ofText]
  rfl

theorem ofText_deleteCommand (h : Token.IsNameWord table) :
    Token.ofText ("DELETE FROM " ++ table) =
      .ok [⟨.keyword, "DELETE"⟩, ⟨.keyword, "FROM"⟩, ⟨.identifier, table⟩] := by
  have hwords : Token.ofText "DELETE FROM" = .ok [⟨.keyword, "DELETE"⟩, ⟨.keyword, "FROM"⟩] := by
    decide +kernel
  have hspace : "DELETE FROM " = "DELETE FROM" ++ " " := rfl
  rw [hspace, Token.ofText_spaced hwords h.ofText]
  rfl

theorem ofText_updateCommand (h : Token.IsNameWord table) {tokens : List Token}
    (hsets : Token.ofText sets = .ok tokens) :
    Token.ofText ("UPDATE " ++ table ++ " SET " ++ sets) =
      .ok (⟨.keyword, "UPDATE"⟩ :: ⟨.identifier, table⟩ :: ⟨.keyword, "SET"⟩ :: tokens) := by
  have hupdate : Token.ofText "UPDATE" = .ok [⟨.keyword, "UPDATE"⟩] := by decide +kernel
  have hset : Token.ofText "SET" = .ok [⟨.keyword, "SET"⟩] := by decide +kernel
  have hwords := Token.ofText_spaced (Token.ofText_spaced (Token.ofText_spaced hupdate h.ofText)
    hset) hsets
  have htext : "UPDATE " ++ table ++ " SET " ++ sets =
      "UPDATE" ++ " " ++ table ++ " " ++ "SET" ++ " " ++ sets := by
    have hspace : "UPDATE " = "UPDATE" ++ " " := rfl
    have hspaces : " SET " = " " ++ "SET" ++ " " := rfl
    simp only [hspace, hspaces, String.append_assoc]
  rw [htext, hwords]
  rfl

theorem ofText_joinCommand {left right leftColumn rightColumn : String}
    (hleft : Token.IsNameWord left) (hright : Token.IsNameWord right)
    (hleftColumn : Token.IsNameWord leftColumn) (hrightColumn : Token.IsNameWord rightColumn) :
    Token.ofText ("JOIN " ++ left ++ " AND " ++ right ++ " ON " ++ leftColumn ++ " AND " ++
        rightColumn) =
      .ok [⟨.keyword, "JOIN"⟩, ⟨.identifier, left⟩, ⟨.logicalOperator, "AND"⟩,
        ⟨.identifier, right⟩, ⟨.keyword, "ON"⟩, ⟨.identifier, leftColumn⟩,
        ⟨.logicalOperator, "AND"⟩, ⟨.identifier, rightColumn⟩] := by
  have hjoin : Token.ofText "JOIN" = .ok [⟨.keyword, "JOIN"⟩] := by decide +kernel
  have hand : Token.ofText "AND" = .ok [⟨.logicalOperator, "AND"⟩] := by decide +kernel
  have hon : Token.ofText "ON" = .ok [⟨.keyword, "ON"⟩] := by decide +kernel
  have htables := Token.ofText_spaced (Token.ofText_spaced (Token.ofText_spaced hjoin
    hleft.ofText) hand) hright.ofText
  have hwords := Token.ofText_spaced (Token.ofText_spaced (Token.ofText_spaced
    (Token.ofText_spaced htables hon) hleftColumn.ofText) hand) hrightColumn.ofText
  have htext : "JOIN " ++ left ++ " AND " ++ right ++ " ON " ++ leftColumn ++ " AND " ++
      rightColumn = "JOIN" ++ " " ++ left ++ " " ++ "AND" ++ " " ++ right ++ " " ++ "ON" ++
        " " ++ leftColumn ++ " " ++ "AND" ++ " " ++ rightColumn := by
    have hspace : "JOIN " = "JOIN" ++ " " := rfl
    have hspaces : " AND " = " " ++ "AND" ++ " " := rfl
    have hspaces' : " ON " = " " ++ "ON" ++ " " := rfl
    simp only [hspace, hspaces, hspaces', String.append_assoc]
  rw [htext, hwords]
  rfl

/-! ## Statements without a condition -/

/-- Whatever text is put behind `USE`, it selects a database or it is no statement: the text
has to be one name, and only blanks may stand beside it. -/
theorem ofText_use_eq_ok_iff {text : String} {statement : Statement} :
    ofText ("USE " ++ text ++ ";") = .ok statement ↔
      ∃ token name, Token.ofText text = .ok [token] ∧ token.Names name ∧
        statement = .use name := by
  have hword : Token.ofText "USE" = .ok [⟨.keyword, "USE"⟩] := by decide +kernel
  have hspace : "USE " = "USE" ++ " " := rfl
  constructor
  · intro h
    obtain ⟨tokens, htokens, hread⟩ := exists_of_bind_eq_ok h
    obtain ⟨form, hspells⟩ := (ofTokens_eq_ok_iff (Token.lexed_of_ofText htokens)).mp hread
    obtain ⟨before, hbefore, rfl⟩ := Token.ofText_append_semicolon_eq_ok_iff.mp htokens
    rw [hspace, Token.ofText_append_space hword] at hbefore
    obtain ⟨inner, hinner, rfl⟩ := exists_of_map_eq_ok hbefore
    -- The first token tells the form of the statement.
    have huse : Word "USE" ⟨.keyword, "USE"⟩ := rfl
    have hform := (form_eq_of_spells hspells).symm.trans
      (Form.ofTokens_of_word huse (by decide) rfl)
    cases hform
    generalize hall : [⟨.keyword, "USE"⟩] ++ inner ++ [⟨.symbol, ";"⟩] = all at hspells
    cases hspells with
    | @use _ token last name _ hname _ =>
        have hrest : inner ++ [⟨.symbol, ";"⟩] = [token] ++ [last] := (List.cons.inj hall).2
        obtain ⟨rfl, _⟩ := List.append_inj' hrest rfl
        exact ⟨token, name, hinner, hname, rfl⟩
  · rintro ⟨token, name, htext, hname, rfl⟩
    have hcommand := Token.ofText_spaced hword htext
    exact ofText_of_spells (Token.ofText_append_semicolon hcommand) (.use rfl hname rfl)

/-- The statement that selects a database, whatever name it has. -/
theorem ofText_use {database : String} (h : Token.IsNameWord database) :
    ofText ("USE " ++ database ++ ";") = .ok (.use database) :=
  ofText_use_eq_ok_iff.mpr ⟨_, _, h.ofText, h.names, rfl⟩

/-- The statement that asks for all of a table, whatever name it has. -/
theorem ofText_select (h : Token.IsNameWord table) :
    ofText ("SELECT * FROM " ++ table ++ ";") = .ok (.select table .all none) := by
  have hspells : Spells .select
      (⟨.keyword, "SELECT"⟩ :: ([⟨.symbol, "*"⟩] ++ ⟨.keyword, "FROM"⟩ :: ⟨.identifier, table⟩ ::
        ([] ++ [⟨.symbol, ";"⟩]))) (.select table .all none) :=
    .select rfl (.all rfl) rfl h.names .absent rfl
  exact ofText_of_spells (Token.ofText_append_semicolon (ofText_selectCommand h)) hspells

/-- The statement that joins two tables, whatever names they and their columns have. -/
theorem ofText_join {left right leftColumn rightColumn : String}
    (hleft : Token.IsNameWord left) (hright : Token.IsNameWord right)
    (hleftColumn : Token.IsNameWord leftColumn) (hrightColumn : Token.IsNameWord rightColumn) :
    ofText ("JOIN " ++ left ++ " AND " ++ right ++ " ON " ++ leftColumn ++ " AND " ++
        rightColumn ++ ";") = .ok (.join left right leftColumn rightColumn) :=
  ofText_of_spells
    (Token.ofText_append_semicolon (ofText_joinCommand hleft hright hleftColumn hrightColumn))
    (.join rfl hleft.names rfl hright.names rfl hleftColumn.names rfl hrightColumn.names rfl)

/-- The names in a join that is read are names as they stand in every statement. -/
theorem isNameWord_of_ofText_join {text left right leftColumn rightColumn : String}
    (h : ofText text = .ok (.join left right leftColumn rightColumn)) :
    (Token.IsNameWord left ∧ Token.IsNameWord right) ∧
      Token.IsNameWord leftColumn ∧ Token.IsNameWord rightColumn := by
  obtain ⟨tokens, htokens, hread⟩ := exists_of_bind_eq_ok h
  have hlexed := Token.lexed_of_ofText htokens
  obtain ⟨form, hspells⟩ := (ofTokens_eq_ok_iff hlexed).mp hread
  cases hspells with
  | join _ hleft _ hright _ hleftColumn _ hrightColumn _ =>
      exact ⟨⟨hleft.isNameWord (hlexed _ (by simp)),
        hright.isNameWord (hlexed _ (by simp))⟩,
        hleftColumn.isNameWord (hlexed _ (by simp)),
        hrightColumn.isNameWord (hlexed _ (by simp))⟩

/-! ## Statements with the same condition -/

theorem isNameWord_of_ofText_select {text : String} {columns : Selection}
    (h : ofText text = .ok (.select table columns condition)) : Token.IsNameWord table :=
  (wellRead_of_ofText h).names table List.mem_cons_self

/-- The condition that a query of all columns is read with. -/
theorem asksFor_of_ofText_select
    (h : ofText ("SELECT * FROM " ++ table ++ " WHERE " ++ rows ++ ";") =
      .ok (.select table .all condition)) : AsksFor rows condition := by
  obtain ⟨tokens, htokens, hread⟩ := exists_of_bind_eq_ok h
  obtain ⟨form, hspells⟩ := (ofTokens_eq_ok_iff (Token.lexed_of_ofText htokens)).mp hread
  rw [Token.ofText_where (ofText_selectCommand (isNameWord_of_ofText_select h))] at htokens
  cases hrest : Token.ofText ("WHERE " ++ rows ++ ";") with
  | error fault =>
      rw [hrest] at htokens
      cases htokens
  | ok rest =>
      rw [hrest] at htokens
      have hall := Except.ok.inj htokens
      cases hspells with
      | select _ hcolumns _ _ hclause hlast =>
          cases hcolumns with
          | all _ =>
              cases hall
              exact ⟨_, _, hrest, hclause, hlast⟩

theorem AsksFor.ofText_select (h : AsksFor rows condition) (htable : Token.IsNameWord table) :
    ofText ("SELECT * FROM " ++ table ++ " WHERE " ++ rows ++ ";") =
      .ok (.select table .all condition) := by
  obtain ⟨clause, last, hrest, hclause, hlast⟩ := h
  have htokens := Token.ofText_where (ofText_selectCommand htable) rows
  rw [hrest] at htokens
  have hspells : Spells .select
      (⟨.keyword, "SELECT"⟩ :: ([⟨.symbol, "*"⟩] ++ ⟨.keyword, "FROM"⟩ :: ⟨.identifier, table⟩ ::
        (clause ++ [last])))
      (.select table .all condition) := .select rfl (.all rfl) rfl htable.names hclause hlast
  exact ofText_of_spells htokens hspells

theorem AsksFor.ofText_delete (h : AsksFor rows condition) (htable : Token.IsNameWord table) :
    ofText ("DELETE FROM " ++ table ++ " WHERE " ++ rows ++ ";") =
      .ok (.delete table condition) := by
  obtain ⟨clause, last, hrest, hclause, hlast⟩ := h
  have htokens := Token.ofText_where (ofText_deleteCommand htable) rows
  rw [hrest] at htokens
  have hspells : Spells .delete
      (⟨.keyword, "DELETE"⟩ :: ⟨.keyword, "FROM"⟩ :: ⟨.identifier, table⟩ :: (clause ++ [last]))
      (.delete table condition) := .delete rfl rfl htable.names hclause hlast
  exact ofText_of_spells htokens hspells

theorem AsksFor.ofText_update (h : AsksFor rows condition) (htable : Token.IsNameWord table)
    {tokens : List Token} {assignments : List (String × String)}
    (hsets : Token.ofText sets = .ok tokens) (hassignments : Listed Assigned tokens assignments) :
    ofText ("UPDATE " ++ table ++ " SET " ++ sets ++ " WHERE " ++ rows ++ ";") =
      .ok (.update table assignments condition) := by
  obtain ⟨clause, last, hrest, hclause, hlast⟩ := h
  have htokens := Token.ofText_where (ofText_updateCommand htable hsets) rows
  rw [hrest] at htokens
  have hspells : Spells .update
      (⟨.keyword, "UPDATE"⟩ :: ⟨.identifier, table⟩ :: ⟨.keyword, "SET"⟩ ::
        (tokens ++ (clause ++ [last])))
      (.update table assignments condition) :=
    .update rfl htable.names rfl hassignments hclause hlast
  exact ofText_of_spells htokens hspells

end Statement

end TextTables
