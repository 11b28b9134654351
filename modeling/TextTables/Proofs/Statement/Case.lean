import TextTables.Proofs.Condition.Case
import TextTables.Proofs.Statement.Scanning
import TextTables.Statement.Reading

/-!
# Statements up to the case of their letters

Every scan does the same on tokens with small letters: it fails where it fails on the
tokens themselves, and where it answers, the answer has small letters too and so have the
tokens that are left.  This is said of each scan of one token and then, by the rules for
attempts, of each routine.  So texts that are the same up to case are statements of the
same kind about the same names up to case, or none of them is a statement.
-/

namespace TextTables

open Text (small sameWord)

namespace Scan

open Attempt

variable {α β : Type}

/-- On tokens with small letters, a scan does what another one does on the tokens, and
leaves the same tokens with small letters. -/
abbrev Mirrors (f : α → β) (scan : Scan α) (image : Scan β) : Prop :=
  Attempt.Mirrors (List.map Token.small) f scan image

/-! ## The scans of single tokens -/

/-- The next token is the same one in any case. -/
theorem mirrors_if_accept {f : α → β} (category : Category) (value : String)
    {yes no : Scan α} {yes' no' : Scan β} (hyes : Mirrors f yes yes') (hno : Mirrors f no no') :
    Mirrors f (do if ← accept category value then yes else no)
      (do if ← accept category value then yes' else no') := by
  have haccept : Mirrors id (accept category value) (accept category value) := by
    constructor
    intro tokens
    cases tokens with
    | nil => rfl
    | cons token rest =>
        rw [List.map_cons, run, accept, Token.is_small, run, accept]
        split
        · rfl
        · rfl
  exact haccept.bind fun _ => mirrors_ite hyes hno

theorem mirrors_next : Mirrors Token.small next next := by
  constructor
  intro tokens
  cases tokens with
  | nil => rfl
  | cons token rest => rfl

/-- A scan that takes one token. -/
theorem mirrors_next_ofExcept {f : α → β} {answer : Token → Except Fault α}
    {image : Token → Except Fault β}
    (h : ∀ token, (image token.small).toOption = (answer token).toOption.map f) :
    Mirrors f (next >>= fun token => ofExcept (answer token))
      (next >>= fun token => ofExcept (image token)) :=
  mirrors_next.bind fun token => mirrors_ofExcept (h token)

theorem mirrors_keyword (word : String) : Mirrors id (keyword word) (keyword word) :=
  mirrors_if_accept .keyword word (mirrors_pure id ()) (mirrors_fail _ _)

theorem mirrors_mark (category : Category) (text : String) :
    Mirrors id (mark category text) (mark category text) := by
  apply mirrors_next_ofExcept
  intro token
  rw [markOf, Token.category_small, Token.value_small, Text.sameWord_small, markOf]
  split
  · rfl
  · split
    · rfl
    · rfl

theorem mirrors_finish : Mirrors id finish finish := by
  refine mirrors_if_accept .symbol ";" ?_ (mirrors_fail _ _)
  constructor
  intro tokens
  cases tokens with
  | nil => rfl
  | cons token rest => rfl

/-! ## Values and names -/

/-- Whether a value is one of the words `TRUE` and `FALSE`, in any case. -/
def isTruth (value : String) : Bool :=
  sameWord value "TRUE" || sameWord value "FALSE"

/-- A value with small letters.  The words `TRUE` and `FALSE` are read in capitals, in
whatever case they are written. -/
def smallValue (value : String) : String :=
  if isTruth value then Text.capitals value else small value

theorem isTruth_small (value : String) : isTruth (small value) = isTruth value := by
  rw [isTruth, Text.sameWord_small, Text.sameWord_small, isTruth]

theorem smallValue_capitals {value : String} (h : isTruth value = true) :
    smallValue (Text.capitals value) = Text.capitals value := by
  rcases capitals_eq_true_or_false h with heq | heq
  · rw [heq]
    decide
  · rw [heq]
    decide

theorem sameWord_smallValue (value word : String) :
    sameWord (smallValue value) word = sameWord value word := by
  unfold smallValue
  split
  · exact Text.sameWord_capitals value word
  · exact Text.sameWord_small value word

theorem toOption_valueOf_small (categories : List Category) (token : Token) :
    (valueOf categories token.small).toOption =
      (valueOf categories token).toOption.map smallValue := by
  have htruth := isTruth_small token.value
  unfold isTruth at htruth
  unfold valueOf
  rw [Token.value_small, Token.category_small, Text.small_beq (by decide), htruth,
    Text.capitals_small, Token.isName_small]
  by_cases hstar : (token.value == "*") = true
  · rw [if_pos hstar, if_pos hstar, beq_iff_eq.mp hstar]
    rfl
  rw [if_neg hstar, if_neg hstar]
  by_cases hword : (sameWord token.value "TRUE" || sameWord token.value "FALSE") = true
  · rw [if_pos hword, if_pos hword]
    exact congrArg some (smallValue_capitals hword).symm
  rw [if_neg hword, if_neg hword]
  split
  · rfl
  · split
    · rfl
    · exact congrArg some (if_neg hword).symm

theorem mirrors_value (categories : List Category) :
    Mirrors smallValue (value categories) (value categories) :=
  mirrors_next_ofExcept (toOption_valueOf_small categories)

/-- A value that is no name. -/
def isReserved (value : String) : Bool :=
  value == "*" || value == "TRUE" || value == "FALSE"

theorem nameOf_eq_bind (token : Token) :
    nameOf token = valueOf [.identifier] token >>= fun found =>
      if isReserved found then .error (.invalidName found) else .ok found := by
  unfold nameOf
  cases valueOf [.identifier] token with
  | error fault => rfl
  | ok found => rfl

theorem beq_eq_false_of_sameWord {value word : String} (h : sameWord value word = false) :
    (value == word) = false := by
  apply beq_false_of_ne
  rintro rfl
  rw [Text.sameWord_refl] at h
  cases h

theorem isReserved_of_not_isTruth {value : String} (h : isTruth value = false) :
    isReserved value = (value == "*") := by
  rw [isTruth, Bool.or_eq_false_iff] at h
  rw [isReserved, beq_eq_false_of_sameWord h.1, beq_eq_false_of_sameWord h.2, Bool.or_false,
    Bool.or_false]

theorem toOption_nameOf_small (token : Token) :
    (nameOf token.small).toOption = (nameOf token).toOption.map small := by
  rw [nameOf_eq_bind, nameOf_eq_bind, toOption_bind, toOption_bind, toOption_valueOf_small]
  cases hfound : valueOf [.identifier] token with
  | error fault => rfl
  | ok found =>
      change Except.toOption (if isReserved (smallValue found) then _ else _) =
        Option.map small (Except.toOption (if isReserved found then _ else _))
      rcases valueOf_eq_ok hfound with (rfl | rfl) | ⟨_, rfl | ⟨_, htrue, hfalse⟩⟩
      · rfl
      · rfl
      · rfl
      -- What is no word for a truth is reserved in any case or in none.
      · have htruth : isTruth found = false := by
          rw [isTruth, htrue, hfalse, Bool.or_false]
        have himage : isTruth (small found) = false := (isTruth_small found).trans htruth
        have hsmall : smallValue found = small found := if_neg (Bool.eq_false_iff.mp htruth)
        rw [hsmall, isReserved_of_not_isTruth himage, Text.small_beq (by decide),
          isReserved_of_not_isTruth htruth]
        split
        · rfl
        · rfl

theorem mirrors_name : Mirrors small name name :=
  mirrors_next_ofExcept toOption_nameOf_small

theorem mirrors_item : Mirrors smallValue item item :=
  mirrors_value _

/-! ## Lists -/

/-- The entries that were read before have small letters, too. -/
theorem mirrors_listUpTo {f : α → β} {entry : List α → Scan α} {image : List β → Scan β}
    (h : ∀ before, Mirrors f (entry before) (image (before.map f))) (bound : Nat)
    (before : List α) :
    Mirrors (List.map f) (listUpTo entry bound before)
      (listUpTo image bound (before.map f)) := by
  induction bound generalizing before with
  | zero =>
      rw [listUpTo, listUpTo, ← List.map_reverse]
      exact mirrors_pure _ _
  | succ bound ih =>
      apply (h before).bind
      intro a
      apply mirrors_if_accept .symbol ","
      · exact ih (a :: before)
      · rw [← List.map_cons, ← List.map_reverse]
        exact mirrors_pure _ _

theorem mirrors_list {f : α → β} {entry : List α → Scan α} {image : List β → Scan β}
    (h : ∀ before, Mirrors f (entry before) (image (before.map f))) :
    Mirrors (List.map f) (list entry) (list image) := by
  constructor
  intro tokens
  -- The bound is the number of tokens, which small letters do not change.
  have hlist := (mirrors_listUpTo h (tokens.length + 1) []).run_eq tokens
  have himage : (list image).run (tokens.map Token.small) =
      (listUpTo image (tokens.length + 1) []).run (tokens.map Token.small) := by
    rw [run, list, List.length_map, run]
  rw [himage]
  exact hlist

/-! ## Conditions -/

/-- One more token in front of what both scans take. -/
theorem map_toOption_cons (token : Token) {left right : Except Fault (List Token) × List Token}
    (h : right.map Except.toOption id =
      left.map (·.toOption.map (List.map Token.small)) (List.map Token.small)) :
    (right.1.map (token.small :: ·), right.2).map Except.toOption id =
      (left.1.map (token :: ·), left.2).map (·.toOption.map (List.map Token.small))
        (List.map Token.small) := by
  obtain ⟨hanswer, hleft⟩ := Prod.mk.inj h
  apply Prod.ext
  · change (right.1.map _).toOption = (left.1.map _).toOption.map _
    rw [toOption_map, hanswer, toOption_map, Option.map_map, Option.map_map]
    rfl
  · exact hleft

theorem mirrors_clauseTokens (depth : Nat) :
    Mirrors (List.map Token.small) (clauseTokens depth) (clauseTokens depth) := by
  constructor
  intro tokens
  induction tokens generalizing depth with
  | nil =>
      cases depth with
      | zero => rfl
      | succ depth => rfl
  | cons token rest ih =>
      rw [run, List.map_cons, clauseTokens_cons, run, clauseTokens_cons]
      simp only [Token.is_small]
      split
      · cases depth with
        | zero => rfl
        | succ depth => rfl
      split
      · exact map_toOption_cons token (ih (depth + 1))
      split
      · cases depth with
        | zero => rfl
        | succ depth => exact map_toOption_cons token (ih depth)
      · exact map_toOption_cons token (ih depth)

theorem toOption_clauseOf_small (tokens : List Token) :
    (clauseOf (tokens.map Token.small)).toOption =
      (clauseOf tokens).toOption.map (Option.map Condition.small) := by
  cases tokens with
  | nil => rfl
  | cons token rest =>
      have hcondition := Condition.toOption_ofTokens_small (token :: rest)
      rw [List.map_cons] at hcondition ⊢
      rw [clauseOf, toOption_map, hcondition, clauseOf, toOption_map, Option.map_map,
        Option.map_map]
      · rfl
      · exact List.cons_ne_nil _ _
      · exact List.cons_ne_nil _ _

theorem mirrors_condition : Mirrors (Option.map Condition.small) condition condition := by
  apply mirrors_if_accept .keyword "WHERE"
  · apply (mirrors_clauseTokens 0).bind
    intro tokens
    exact mirrors_ofExcept (toOption_clauseOf_small tokens)
  · exact mirrors_pure _ none

end Scan

/-- The columns of a query with small letters. -/
def Selection.small : Selection → Selection
  | all => all
  | columns names => columns (names.map Text.small)

namespace Statement

open Attempt Scan

/-- A statement with the letters `A` to `Z` made small in all that it names. -/
def small : Statement → Statement
  | use database => use (Text.small database)
  | createDatabase database => createDatabase (Text.small database)
  | createTable table columns => createTable (Text.small table) (columns.map Text.small)
  | insert table values => insert (Text.small table) (values.map smallValue)
  | select table columns condition =>
    select (Text.small table) columns.small (condition.map Condition.small)
  | update table assignments condition =>
    update (Text.small table) (assignments.map (Prod.map Text.small smallValue))
      (condition.map Condition.small)
  | delete table condition => delete (Text.small table) (condition.map Condition.small)
  | alter table change column => alter (Text.small table) change (Text.small column)
  | dropTable table => dropTable (Text.small table)
  | dropDatabase database => dropDatabase (Text.small database)
  | join left right leftColumn rightColumn =>
    join (Text.small left) (Text.small right) (Text.small leftColumn) (Text.small rightColumn)

/-! ## Phrases -/

theorem mirrors_newColumn (before : List String) :
    Mirrors Text.small (newColumn before) (newColumn (before.map Text.small)) := by
  apply mirrors_name.bind
  intro column
  have htwice : (sameWord (Text.small column) "id" ||
      (before.map Text.small).any (sameWord · (Text.small column))) =
        (sameWord column "id" || before.any (sameWord · column)) := by
    rw [Text.sameWord_small, List.any_map]
    congr 2
    funext other
    exact (Text.sameWord_small _ _).trans (Text.sameWord_small_right _ _)
  rw [htwice]
  exact mirrors_ite (mirrors_fail _ _) (mirrors_pure _ _)

theorem mirrors_newColumns : Mirrors (List.map Text.small) newColumns newColumns := by
  apply mirrors_if_accept .symbol "(" _ (mirrors_pure _ [])
  apply (mirrors_list mirrors_newColumn).bind
  intro columns
  exact (mirrors_mark .symbol ")").bind fun _ => mirrors_pure _ columns

theorem mirrors_selection : Mirrors Selection.small selection selection := by
  refine mirrors_if_accept .symbol "*" (mirrors_pure Selection.small .all) ?_
  apply (mirrors_list fun _ => mirrors_name).bind
  intro names
  exact mirrors_pure Selection.small (.columns names)

theorem mirrors_assignment : Mirrors (Prod.map Text.small smallValue) assignment assignment := by
  apply mirrors_name.bind
  intro column
  rw [Text.sameWord_small]
  apply mirrors_ite (mirrors_fail _ _)
  apply (mirrors_mark .symbol "=").bind
  intro _
  apply mirrors_item.bind
  intro assigned
  exact mirrors_pure _ (column, assigned)

theorem mirrors_alteration : Mirrors id alteration alteration := by
  apply mirrors_if_accept .keyword "ADD" (mirrors_pure _ _)
  exact mirrors_if_accept .keyword "DROP" (mirrors_pure _ _) (mirrors_fail _ _)

theorem mirrors_dropped : Mirrors small dropped dropped := by
  apply (mirrors_value [.keyword]).bind
  intro object
  rw [sameWord_smallValue, sameWord_smallValue]
  apply mirrors_ite
  · exact mirrors_name.bind fun table => mirrors_pure small (dropTable table)
  · apply mirrors_ite _ (mirrors_fail _ _)
    exact mirrors_name.bind fun database => mirrors_pure small (dropDatabase database)

/-! ## The routines -/

/-- A statement is complete behind the semicolon. -/
theorem mirrors_finish_pure (statement : Statement) :
    Mirrors small (finish >>= fun _ => pure statement)
      (finish >>= fun _ => pure statement.small) :=
  mirrors_finish.bind fun _ => mirrors_pure _ statement

theorem mirrors_readUse : Mirrors small readUse readUse := by
  refine (mirrors_keyword "USE").bind fun _ => ?_
  exact mirrors_name.bind fun database => mirrors_finish_pure (.use database)

theorem mirrors_readCreateDatabase : Mirrors small readCreateDatabase readCreateDatabase := by
  refine (mirrors_keyword "CREATE").bind fun _ => ?_
  refine (mirrors_keyword "DATABASE").bind fun _ => ?_
  exact mirrors_name.bind fun database => mirrors_finish_pure (.createDatabase database)

theorem mirrors_readCreateTable : Mirrors small readCreateTable readCreateTable := by
  refine (mirrors_keyword "CREATE").bind fun _ => ?_
  refine (mirrors_keyword "TABLE").bind fun _ => ?_
  refine mirrors_name.bind fun table => ?_
  exact mirrors_newColumns.bind fun columns => mirrors_finish_pure (.createTable table columns)

theorem mirrors_readInsert : Mirrors small readInsert readInsert := by
  refine (mirrors_keyword "INSERT").bind fun _ => ?_
  refine (mirrors_keyword "INTO").bind fun _ => ?_
  refine mirrors_name.bind fun table => ?_
  refine (mirrors_keyword "VALUES").bind fun _ => ?_
  refine (mirrors_mark .symbol "(").bind fun _ => ?_
  refine (mirrors_list fun _ => mirrors_item).bind fun values => ?_
  refine (mirrors_mark .symbol ")").bind fun _ => ?_
  exact mirrors_finish_pure (.insert table values)

theorem mirrors_readSelect : Mirrors small readSelect readSelect := by
  refine (mirrors_keyword "SELECT").bind fun _ => ?_
  refine mirrors_selection.bind fun columns => ?_
  refine (mirrors_mark .keyword "FROM").bind fun _ => ?_
  refine mirrors_name.bind fun table => ?_
  exact mirrors_condition.bind fun rows => mirrors_finish_pure (.select table columns rows)

theorem mirrors_readUpdate : Mirrors small readUpdate readUpdate := by
  refine (mirrors_keyword "UPDATE").bind fun _ => ?_
  refine mirrors_name.bind fun table => ?_
  refine (mirrors_keyword "SET").bind fun _ => ?_
  refine (mirrors_list fun _ => mirrors_assignment).bind fun assignments => ?_
  exact mirrors_condition.bind fun rows => mirrors_finish_pure (.update table assignments rows)

theorem mirrors_readDelete : Mirrors small readDelete readDelete := by
  refine (mirrors_keyword "DELETE").bind fun _ => ?_
  refine (mirrors_keyword "FROM").bind fun _ => ?_
  refine mirrors_name.bind fun table => ?_
  exact mirrors_condition.bind fun rows => mirrors_finish_pure (.delete table rows)

theorem mirrors_readAlter : Mirrors small readAlter readAlter := by
  refine (mirrors_keyword "ALTER").bind fun _ => ?_
  refine (mirrors_keyword "TABLE").bind fun _ => ?_
  refine mirrors_name.bind fun table => ?_
  refine mirrors_alteration.bind fun change => ?_
  exact mirrors_name.bind fun column => mirrors_finish_pure (.alter table change column)

theorem mirrors_readDrop : Mirrors small readDrop readDrop := by
  refine (mirrors_keyword "DROP").bind fun _ => ?_
  exact mirrors_dropped.bind fun statement => mirrors_finish_pure statement

theorem mirrors_readJoin : Mirrors small readJoin readJoin := by
  refine (mirrors_keyword "JOIN").bind fun _ => ?_
  refine mirrors_name.bind fun left => ?_
  refine (mirrors_mark .logicalOperator "AND").bind fun _ => ?_
  refine mirrors_name.bind fun right => ?_
  refine (mirrors_mark .keyword "ON").bind fun _ => ?_
  refine mirrors_name.bind fun leftColumn => ?_
  refine (mirrors_mark .logicalOperator "AND").bind fun _ => ?_
  refine mirrors_name.bind fun rightColumn => ?_
  exact mirrors_finish_pure (.join left right leftColumn rightColumn)

theorem mirrors_formScan (form : Form) : Mirrors small form.scan form.scan := by
  cases form with
  | use => exact mirrors_readUse
  | createDatabase => exact mirrors_readCreateDatabase
  | createTable => exact mirrors_readCreateTable
  | insert => exact mirrors_readInsert
  | select => exact mirrors_readSelect
  | update => exact mirrors_readUpdate
  | delete => exact mirrors_readDelete
  | alter => exact mirrors_readAlter
  | drop => exact mirrors_readDrop
  | join => exact mirrors_readJoin

/-! ## Statements -/

/-- The form of a statement is told in any case. -/
theorem form_ofTokens_small (tokens : List Token) :
    Form.ofTokens (tokens.map Token.small) = Form.ofTokens tokens := by
  cases tokens with
  | nil => rfl
  | cons first rest =>
      cases rest with
      | nil =>
          simp only [List.map_cons, List.map_nil, Form.ofTokens, Token.category_small,
            Token.value_small, Text.sameWord_small]
      | cons second more =>
          simp only [List.map_cons, Form.ofTokens, Token.category_small, Token.value_small,
            Text.sameWord_small, Token.is_small]

theorem mirrors_any (tokens : List Token) :
    Mirrors small (Routine.any.scan tokens) (Routine.any.scan (tokens.map Token.small)) := by
  have hform : Mirrors id (Attempt.ofExcept (Form.ofTokens tokens))
      (Attempt.ofExcept (Form.ofTokens (tokens.map Token.small))) := by
    rw [form_ofTokens_small]
    exact mirrors_ofExcept Option.map_id'.symm
  exact hform.bind mirrors_formScan

theorem toOption_ofTokens_small (tokens : List Token) :
    (ofTokens (tokens.map Token.small)).toOption = (ofTokens tokens).toOption.map small :=
  congrArg Prod.fst ((mirrors_any tokens).run_eq tokens)

/-- A text with small letters is the statement with small letters, or none. -/
theorem toOption_ofText_small (s : String) :
    (ofText (Text.small s)).toOption = (ofText s).toOption.map small := by
  rw [ofText, toOption_bind, Token.toOption_ofText_small, ofText, toOption_bind]
  cases (Token.ofText s).toOption with
  | none => rfl
  | some tokens => exact toOption_ofTokens_small tokens

/-- Texts that are the same up to case are both no statements, or statements that are the
same up to case. -/
theorem ofText_of_small_eq {s t : String} (h : Text.small s = Text.small t) :
    (∃ fault other, ofText s = .error fault ∧ ofText t = .error other) ∨
      ∃ statement same, ofText s = .ok statement ∧ ofText t = .ok same ∧
        same.small = statement.small := by
  have hoption : (ofText s).toOption.map small = (ofText t).toOption.map small := by
    rw [← toOption_ofText_small, h, toOption_ofText_small]
  cases hs : ofText s with
  | error fault =>
      cases ht : ofText t with
      | error other => exact Or.inl ⟨fault, other, rfl, rfl⟩
      | ok same =>
          rw [hs, ht] at hoption
          cases hoption
  | ok statement =>
      cases ht : ofText t with
      | error other =>
          rw [hs, ht] at hoption
          cases hoption
      | ok same =>
          rw [hs, ht] at hoption
          exact Or.inr ⟨statement, same, rfl, rfl, (Option.some.inj hoption).symm⟩

end Statement

end TextTables
