import TextTables.Proofs.Condition.Agreement
import TextTables.Proofs.Statement.Spelling

/-!
# Statements read from texts that differ in literals

Two readings of tokens that differ in literals only go side by side: scan by scan, both
fail for the same cause, or both answer and the tokens that they leave differ in literals
again.  The contents of the literals are split between what has been read and what is
left.  There is one rule for each way to put scans together and one for each scan, so a
statement holds the contents of each literal exactly where it was written.
-/

namespace TextTables

open Fragment (quoted)
open Token (ofContent)

namespace Scan

open Attempt
open Text (sameWord)

variable {α β : Type}

/-- How two scans end that have the same contents before them. -/
inductive Outcome (R : Contents → α → α → Prop) (contents : Contents) :
    Except Fault α × List Token → Except Fault α × List Token → Prop
  | error {f g : Fault} {rest rest' : List Token} (hfault : Fault.Alike contents f g) :
      Outcome R contents (.error f, rest) (.error g, rest')
  | ok {read left : Contents} {a b : α} {rest rest' : List Token}
      (hcontents : read ++ left = contents) (hanswer : R read a b)
      (hrest : Each (EqualBut ofContent) left rest rest') :
      Outcome R contents (.ok a, rest) (.ok b, rest')

/-- From tokens that differ in literals, two scans end alike. -/
structure Agree (R : Contents → α → α → Prop) (scan scan' : Scan α) : Prop where
  outcome : ∀ {contents tokens tokens'}, Each (EqualBut ofContent) contents tokens tokens' →
    Outcome R contents (scan.run tokens) (scan'.run tokens')

/-- No literal is in it. -/
def Same (contents : Contents) (a b : α) : Prop :=
  contents = [] ∧ a = b

/-! ## Putting scans together -/

theorem agree_pure {R : Contents → α → α → Prop} {a b : α} (h : R [] a b) :
    Agree R (pure a) (pure b) where
  outcome htokens := .ok rfl h htokens

theorem agree_fail {R : Contents → α → α → Prop} (fault : Fault) :
    Agree R (fail fault) (fail fault) where
  outcome _ := .error (.same fault)

theorem Agree.bind {R : Contents → α → α → Prop} {S : Contents → β → β → Prop}
    {first first' : Scan α} {next next' : α → Scan β} (hfirst : Agree R first first')
    (hnext : ∀ read a b, R read a b → Agree (fun more => S (read ++ more)) (next a) (next' b)) :
    Agree S (first >>= next) (first' >>= next') := by
  refine ⟨fun {contents tokens tokens'} htokens => ?_⟩
  have houtcome := hfirst.outcome htokens
  rw [run_bind, run_bind]
  revert houtcome
  generalize first.run tokens = left
  generalize first'.run tokens' = right
  rintro (hfault | ⟨rfl, hanswer, hrest⟩)
  · exact .error hfault
  · have hsecond := (hnext _ _ _ hanswer).outcome hrest
    revert hsecond
    dsimp only
    generalize (next _).run _ = left
    generalize (next' _).run _ = right
    rintro (hfault | ⟨rfl, hlast, hleft⟩)
    · exact .error (hfault.mono (List.subset_append_right _ _))
    · exact .ok (List.append_assoc ..) hlast hleft

/-- What follows a scan that reads no literal. -/
theorem Agree.bind_same {S : Contents → β → β → Prop} {first first' : Scan α}
    {next next' : α → Scan β} (hfirst : Agree Same first first')
    (hnext : ∀ a, Agree S (next a) (next' a)) : Agree S (first >>= next) (first' >>= next') := by
  refine hfirst.bind ?_
  rintro _ a _ ⟨rfl, rfl⟩
  exact hnext a

/-- What has been read may be looked at once more. -/
theorem Agree.bind_ofExcept {R : Contents → α → α → Prop} {S : Contents → β → β → Prop}
    {first first' : Scan α} {f : α → Except Fault β} (hfirst : Agree R first first')
    (hnext : ∀ read a b, R read a b → Parallel (Fault.Alike read) (S read) (f a) (f b)) :
    Agree S (first >>= fun a => ofExcept (f a)) (first' >>= fun a => ofExcept (f a)) := by
  refine ⟨fun {contents tokens tokens'} htokens => ?_⟩
  have houtcome := hfirst.outcome htokens
  rw [run_bind, run_bind]
  revert houtcome
  generalize first.run tokens = left
  generalize first'.run tokens' = right
  rintro (hfault | ⟨rfl, hanswer, hrest⟩)
  · exact .error hfault
  · have hsecond := hnext _ _ _ hanswer
    simp only [run_ofExcept]
    revert hsecond
    generalize f _ = left
    generalize f _ = right
    rintro (hfault | hlast)
    · exact .error (hfault.mono (List.subset_append_left _ _))
    · exact .ok rfl hlast hrest

theorem agree_ite {R : Contents → α → α → Prop} (c : Prop) [Decidable c]
    {yes yes' no no' : Scan α} (hyes : Agree R yes yes') (hno : Agree R no no') :
    Agree R (if c then yes else no) (if c then yes' else no') := by
  split
  · exact hyes
  · exact hno

theorem Agree.mono {R S : Contents → α → α → Prop} {scan scan' : Scan α}
    (h : Agree R scan scan') (himp : ∀ contents a b, R contents a b → S contents a b) :
    Agree S scan scan' := by
  refine ⟨fun {contents tokens tokens'} htokens => ?_⟩
  have houtcome := h.outcome htokens
  revert houtcome
  generalize scan.run tokens = left
  generalize scan'.run tokens' = right
  rintro (hfault | ⟨hcontents, hanswer, hrest⟩)
  · exact .error hfault
  · exact .ok hcontents (himp _ _ _ hanswer) hrest

/-- Outside of literals the next tokens are the same, so both scans go on the same way. -/
theorem agree_if_accept {R : Contents → α → α → Prop} {category : Category} {value : String}
    (hcategory : category ≠ .string) {yes yes' no no' : Scan α} (hyes : Agree R yes yes')
    (hno : Agree R no no') :
    Agree R (do if ← accept category value then yes else no)
      (do if ← accept category value then yes' else no') := by
  refine ⟨fun {contents tokens tokens'} htokens => ?_⟩
  cases htokens with
  | nil => exact hno.outcome .nil
  | @cons part more token token' rest rest' htoken hrest =>
      rw [run_bind, run_bind]
      by_cases his : token.is category value = true
      · obtain ⟨rfl, rfl⟩ := Token.eq_of_is htoken his hcategory
        rw [run_accept_of_is his, run_accept_of_is his]
        exact hyes.outcome hrest
      · have hnot := his
        rw [← Token.is_eq_of_equalBut htoken hcategory] at hnot
        rw [run_accept_of_not_ahead (not_ahead_cons_iff.mpr his),
          run_accept_of_not_ahead (not_ahead_cons_iff.mpr hnot)]
        exact hno.outcome (.cons htoken hrest)

/-! ## The scans of single tokens -/

theorem agree_next : Agree (EqualBut ofContent) next next := by
  refine ⟨fun {contents tokens tokens'} htokens => ?_⟩
  cases htokens with
  | nil => exact .error (.same _)
  | cons htoken hrest => exact .ok rfl htoken hrest

/-- A scan that takes one token, as it does on literals. -/
theorem agree_next_ofExcept {R : Contents → α → α → Prop} {f : Token → Except Fault α}
    (hsame : ∀ a, R [] a a) (hdiffer : ∀ a b, Parallel (Fault.Alike [(a, b)]) (R [(a, b)])
      (f (ofContent a)) (f (ofContent b))) :
    Agree R (next >>= fun token => ofExcept (f token))
      (next >>= fun token => ofExcept (f token)) := by
  refine agree_next.bind_ofExcept fun read token token' htoken => ?_
  cases htoken with
  | same => exact .refl .same hsame _
  | differ a b => exact hdiffer a b

theorem same_refl (a : α) : Same [] a a :=
  ⟨rfl, rfl⟩

theorem agree_keyword (word : String) : Agree Same (keyword word) (keyword word) :=
  agree_if_accept (by decide) (agree_pure (same_refl ())) (agree_fail _)

/-- A literal has no other category. -/
theorem agree_mark {category : Category} (hcategory : category ≠ .string) (text : String) :
    Agree Same (mark category text) (mark category text) := by
  refine agree_next_ofExcept same_refl fun a b => ?_
  have hmark : ∀ content, markOf category text (ofContent content) =
      .error (.categoryExpected category .string) := by
    intro content
    rw [markOf, ofContent, if_pos (bne_iff_ne.mpr hcategory.symm)]
  rw [hmark, hmark]
  exact .error (.same _)

/-- A literal is a value as it is written, where literals are expected. -/
theorem valueOf_ofContent (categories : List Category) (content : List Char) :
    valueOf categories (ofContent content) =
      if categories.contains .string then .ok (quoted content)
      else .error (.unexpectedToken (quoted content)) := by
  have hstar : (quoted content == "*") = false := by
    refine beq_false_of_ne fun heq => ?_
    have hlist := congrArg String.toList heq
    rw [Fragment.toList_quoted] at hlist
    cases hlist
  have htruth :
      (sameWord (quoted content) "TRUE" || sameWord (quoted content) "FALSE") = false := by
    rw [Token.sameWord_quoted (by decide), Token.sameWord_quoted (by decide)]
    rfl
  have hcategory : (Category.string == Category.identifier) = false := rfl
  simp [valueOf, ofContent, hstar, htruth, hcategory]

theorem agree_name : Agree Same name name := by
  refine agree_next_ofExcept same_refl fun a b => ?_
  have hname : ∀ content, nameOf (ofContent content) =
      .error (.unexpectedToken (quoted content)) := by
    intro content
    rw [nameOf, valueOf_ofContent]
    rfl
  rw [hname, hname]
  exact .error (.quoting (by simp [Fault.quoting]) (List.mem_singleton_self _))

theorem agree_object : Agree Same (value [.keyword]) (value [.keyword]) := by
  refine agree_next_ofExcept same_refl fun a b => ?_
  rw [valueOf_ofContent, valueOf_ofContent]
  exact .error (.quoting (by simp [Fault.quoting]) (List.mem_singleton_self _))

theorem agree_item : Agree (EqualBut quoted) item item := by
  refine agree_next_ofExcept .same fun a b => ?_
  rw [valueOf_ofContent, valueOf_ofContent]
  exact .ok (.differ a b)

theorem agree_finish : Agree Same finish finish := by
  refine agree_if_accept (by decide) ?_ (agree_fail _)
  refine ⟨fun {contents tokens tokens'} htokens => ?_⟩
  cases htokens with
  | nil => exact .ok rfl (same_refl ()) .nil
  | cons htoken hrest =>
      have hvalue := Token.value_of_equalBut htoken
      refine .error (Fault.alike_quoting hvalue (by simp [Fault.quoting]) ?_)
      exact List.subset_append_left _ _

/-! ## Lists -/

/-- Entries are read alike, each after those that were read before it, last first. -/
theorem agree_listUpTo {R : Contents → α → α → Prop} {entry : List α → Scan α}
    (hentry : ∀ contents before before', Each R contents before.reverse before'.reverse →
      Agree R (entry before) (entry before')) (bound : Nat) {passed : Contents}
    {before before' : List α} (hbefore : Each R passed before.reverse before'.reverse) :
    Agree (fun more => Each R (passed ++ more)) (listUpTo entry bound before)
      (listUpTo entry bound before') := by
  induction bound generalizing passed before before' with
  | zero =>
      refine agree_pure ?_
      rw [List.append_nil]
      exact hbefore
  | succ bound ih =>
      refine (hentry _ _ _ hbefore).bind fun read a b hanswer => ?_
      have hmore : Each R (passed ++ read) (a :: before).reverse (b :: before').reverse := by
        rw [List.reverse_cons, List.reverse_cons]
        have hlast : Each R (read ++ []) [a] [b] := .cons hanswer .nil
        rw [List.append_nil] at hlast
        exact hbefore.append hlast
      refine agree_if_accept (by decide) ?_ ?_
      · refine (ih hmore).mono fun contents found found' hfound => ?_
        rwa [← List.append_assoc]
      · refine agree_pure ?_
        rw [List.append_nil]
        exact hmore

theorem agree_list {R : Contents → α → α → Prop} {entry : List α → Scan α}
    (hentry : ∀ contents before before', Each R contents before.reverse before'.reverse →
      Agree R (entry before) (entry before')) :
    Agree (Each R) (list entry) (list entry) := by
  refine ⟨fun {contents tokens tokens'} htokens => ?_⟩
  have hstart : Each R [] ([] : List α).reverse ([] : List α).reverse := .nil
  have hlist := (agree_listUpTo hentry (tokens.length + 1) hstart).outcome htokens
  have hlength : tokens'.length = tokens.length := htokens.length_eq.symm
  have hrun : (list entry).run tokens' = (listUpTo entry (tokens.length + 1) []).run tokens' := by
    rw [← hlength]
    rfl
  rw [hrun]
  exact hlist

theorem Same.of_each {contents : Contents} {xs ys : List α} (h : Each Same contents xs ys) :
    Same contents xs ys := by
  induction h with
  | nil => exact ⟨rfl, rfl⟩
  | cons hfirst _ ih =>
      obtain ⟨rfl, rfl⟩ := hfirst
      obtain ⟨rfl, rfl⟩ := ih
      exact ⟨rfl, rfl⟩

/-- Entries that read no literal make a list that reads none. -/
theorem agree_list_same {entry : List α → Scan α}
    (hentry : ∀ before, Agree Same (entry before) (entry before)) :
    Agree Same (list entry) (list entry) := by
  refine (agree_list fun contents before before' hbefore => ?_).mono fun _ _ _ => Same.of_each
  obtain ⟨_, heq⟩ := Same.of_each hbefore
  rw [List.reverse_inj.mp heq]
  exact hentry before'

/-! ## Conditions -/

/-- One more token in front of what both scans take. -/
theorem outcome_cons {part more : Contents} {token token' : Token}
    {left right : Except Fault (List Token) × List Token}
    (htoken : EqualBut ofContent part token token')
    (h : Outcome (Each (EqualBut ofContent)) more left right) :
    Outcome (Each (EqualBut ofContent)) (part ++ more) (left.1.map (token :: ·), left.2)
      (right.1.map (token' :: ·), right.2) := by
  obtain hfault | ⟨rfl, htaken, hrest⟩ := h
  · exact .error (hfault.mono (List.subset_append_right _ _))
  · exact .ok (List.append_assoc ..) (.cons htoken htaken) hrest

theorem agree_clauseTokens (depth : Nat) :
    Agree (Each (EqualBut ofContent)) (clauseTokens depth) (clauseTokens depth) := by
  have hend : ∀ {contents : Contents} {tokens tokens' : List Token} (depth : Nat),
      Each (EqualBut ofContent) contents tokens tokens' →
        Outcome (Each (EqualBut ofContent)) contents
          (if depth == 0 then .ok [] else .error .unclosedParenthesis, tokens)
          (if depth == 0 then .ok [] else .error .unclosedParenthesis, tokens') := by
    intro contents tokens tokens' depth htokens
    split
    · exact .ok rfl .nil htokens
    · exact .error (.same _)
  refine ⟨fun {contents tokens tokens'} htokens => ?_⟩
  change Outcome _ contents (clauseTokens depth tokens) (clauseTokens depth tokens')
  induction htokens generalizing depth with
  | nil => exact hend depth .nil
  | @cons part more token token' rest rest' htoken hrest ih =>
      have his : ∀ value, token'.is .symbol value = token.is .symbol value :=
        Token.is_eq_of_equalBut htoken (by decide)
      rw [clauseTokens_cons, clauseTokens_cons, his, his, his]
      split
      · exact hend depth (.cons htoken hrest)
      split
      · exact outcome_cons htoken (ih (depth + 1))
      split
      · cases depth with
        | zero => exact .error (.same _)
        | succ depth => exact outcome_cons htoken (ih depth)
      · exact outcome_cons htoken (ih depth)

theorem parallel_clauseOf {contents : Contents} {used used' : List Token}
    (h : Each (EqualBut ofContent) contents used used') :
    Parallel (Fault.Alike contents) (Optional Condition.Alike contents) (clauseOf used)
      (clauseOf used') := by
  cases h with
  | nil => exact .ok .none
  | cons htoken hrest =>
      exact (Condition.parallel_ofTokens (.cons htoken hrest)).map fun _ _ => .some

theorem agree_condition : Agree (Optional Condition.Alike) condition condition := by
  refine agree_if_accept (by decide) ?_ (agree_pure .none)
  exact (agree_clauseTokens 0).bind_ofExcept fun _ _ _ => parallel_clauseOf

end Scan

namespace Statement

open Scan Attempt
open Text (sameWord)

/-- The same column, and a value that holds the contents of its literal. -/
def AlikeAssignment (contents : Contents) (entry entry' : String × String) : Prop :=
  entry.1 = entry'.1 ∧ EqualBut quoted contents entry.2 entry'.2

/-- Statements of the same kind that are equal, except that each value that is taken from
a literal holds the contents of that literal.  The literals are taken in the order in
which they are written, each of them once. -/
inductive Alike : Contents → Statement → Statement → Prop
  | same (statement : Statement) : Alike [] statement statement
  | insert {contents : Contents} {values values' : List String} (table : String)
      (hvalues : Each (EqualBut quoted) contents values values') :
      Alike contents (.insert table values) (.insert table values')
  | select {contents : Contents} {condition condition' : Option Condition} (table : String)
      (columns : Selection) (hcondition : Optional Condition.Alike contents condition condition') :
      Alike contents (.select table columns condition) (.select table columns condition')
  | update {contents more : Contents} {assignments assignments' : List (String × String)}
      {condition condition' : Option Condition} (table : String)
      (hassignments : Each AlikeAssignment contents assignments assignments')
      (hcondition : Optional Condition.Alike more condition condition') :
      Alike (contents ++ more) (.update table assignments condition)
        (.update table assignments' condition')
  | delete {contents : Contents} {condition condition' : Option Condition} (table : String)
      (hcondition : Optional Condition.Alike contents condition condition') :
      Alike contents (.delete table condition) (.delete table condition')

/-! ## Phrases -/

theorem agree_newColumns : Agree Same newColumns newColumns := by
  have hcolumns : Agree Same (Scan.list newColumn) (Scan.list newColumn) := by
    refine agree_list_same fun before => agree_name.bind_same fun column => ?_
    exact agree_ite _ (agree_fail _) (agree_pure (same_refl column))
  refine agree_if_accept (by decide) ?_ (agree_pure (same_refl []))
  refine hcolumns.bind_same fun columns => ?_
  exact (agree_mark (by decide) ")").bind_same fun _ => agree_pure (same_refl columns)

theorem agree_selection : Agree Same selection selection := by
  refine agree_if_accept (by decide) (agree_pure (same_refl _)) ?_
  exact (agree_list_same fun _ => agree_name).bind_same fun names => agree_pure (same_refl _)

theorem agree_assignment : Agree AlikeAssignment assignment assignment := by
  refine agree_name.bind_same fun column => agree_ite _ (agree_fail _) ?_
  refine (agree_mark (by decide) "=").bind_same fun _ => ?_
  refine agree_item.bind fun read value value' hvalue => agree_pure ⟨rfl, ?_⟩
  rwa [List.append_nil]

theorem agree_alteration : Agree Same alteration alteration := by
  refine agree_if_accept (by decide) (agree_pure (same_refl _)) ?_
  exact agree_if_accept (by decide) (agree_pure (same_refl _)) (agree_fail _)

theorem agree_dropped : Agree Same dropped dropped := by
  refine agree_object.bind_same fun object => agree_ite _ ?_ (agree_ite _ ?_ (agree_fail _))
  · exact agree_name.bind_same fun table => agree_pure (same_refl _)
  · exact agree_name.bind_same fun database => agree_pure (same_refl _)

/-! ## The routines -/

/-- A statement is complete behind the semicolon. -/
theorem agree_finish_pure {contents : Contents} {statement statement' : Statement}
    (h : Alike contents statement statement') :
    Agree (fun more => Alike (contents ++ more)) (finish >>= fun _ => pure statement)
      (finish >>= fun _ => pure statement') := by
  refine agree_finish.bind_same fun _ => agree_pure ?_
  rwa [List.append_nil]

theorem agree_readUse : Agree Alike readUse readUse := by
  refine (agree_keyword "USE").bind_same fun _ => ?_
  exact agree_name.bind_same fun database => agree_finish_pure (.same _)

theorem agree_readCreateDatabase : Agree Alike readCreateDatabase readCreateDatabase := by
  refine (agree_keyword "CREATE").bind_same fun _ => ?_
  refine (agree_keyword "DATABASE").bind_same fun _ => ?_
  exact agree_name.bind_same fun database => agree_finish_pure (.same _)

theorem agree_readCreateTable : Agree Alike readCreateTable readCreateTable := by
  refine (agree_keyword "CREATE").bind_same fun _ => ?_
  refine (agree_keyword "TABLE").bind_same fun _ => ?_
  refine agree_name.bind_same fun table => ?_
  exact agree_newColumns.bind_same fun columns => agree_finish_pure (.same _)

theorem agree_readInsert : Agree Alike readInsert readInsert := by
  refine (agree_keyword "INSERT").bind_same fun _ => ?_
  refine (agree_keyword "INTO").bind_same fun _ => ?_
  refine agree_name.bind_same fun table => ?_
  refine (agree_keyword "VALUES").bind_same fun _ => ?_
  refine (agree_mark (by decide) "(").bind_same fun _ => ?_
  refine (agree_list fun _ _ _ _ => agree_item).bind fun contents values values' hvalues => ?_
  refine (agree_mark (by decide) ")").bind_same fun _ => ?_
  exact agree_finish_pure (.insert table hvalues)

theorem agree_readSelect : Agree Alike readSelect readSelect := by
  refine (agree_keyword "SELECT").bind_same fun _ => ?_
  refine agree_selection.bind_same fun columns => ?_
  refine (agree_mark (by decide) "FROM").bind_same fun _ => ?_
  refine agree_name.bind_same fun table => ?_
  refine agree_condition.bind fun contents rows rows' hrows => ?_
  exact agree_finish_pure (.select table columns hrows)

theorem agree_readUpdate : Agree Alike readUpdate readUpdate := by
  refine (agree_keyword "UPDATE").bind_same fun _ => ?_
  refine agree_name.bind_same fun table => ?_
  refine (agree_keyword "SET").bind_same fun _ => ?_
  refine (agree_list fun _ _ _ _ => agree_assignment).bind
    fun contents assignments assignments' hassignments => ?_
  refine agree_condition.bind fun more rows rows' hrows => ?_
  refine (agree_finish_pure (.update table hassignments hrows)).mono fun rest _ _ h => ?_
  rwa [← List.append_assoc]

theorem agree_readDelete : Agree Alike readDelete readDelete := by
  refine (agree_keyword "DELETE").bind_same fun _ => ?_
  refine (agree_keyword "FROM").bind_same fun _ => ?_
  refine agree_name.bind_same fun table => ?_
  refine agree_condition.bind fun contents rows rows' hrows => ?_
  exact agree_finish_pure (.delete table hrows)

theorem agree_readAlter : Agree Alike readAlter readAlter := by
  refine (agree_keyword "ALTER").bind_same fun _ => ?_
  refine (agree_keyword "TABLE").bind_same fun _ => ?_
  refine agree_name.bind_same fun table => ?_
  refine agree_alteration.bind_same fun change => ?_
  exact agree_name.bind_same fun column => agree_finish_pure (.same _)

theorem agree_readDrop : Agree Alike readDrop readDrop := by
  refine (agree_keyword "DROP").bind_same fun _ => ?_
  exact agree_dropped.bind_same fun statement => agree_finish_pure (.same _)

theorem agree_readJoin : Agree Alike readJoin readJoin := by
  refine (agree_keyword "JOIN").bind_same fun _ => ?_
  refine agree_name.bind_same fun left => ?_
  refine (agree_mark (by decide) "AND").bind_same fun _ => ?_
  refine agree_name.bind_same fun right => ?_
  refine (agree_mark (by decide) "ON").bind_same fun _ => ?_
  refine agree_name.bind_same fun leftColumn => ?_
  refine (agree_mark (by decide) "AND").bind_same fun _ => ?_
  exact agree_name.bind_same fun rightColumn => agree_finish_pure (.same _)

theorem agree_formScan (form : Form) : Agree Alike form.scan form.scan := by
  cases form with
  | use => exact agree_readUse
  | createDatabase => exact agree_readCreateDatabase
  | createTable => exact agree_readCreateTable
  | insert => exact agree_readInsert
  | select => exact agree_readSelect
  | update => exact agree_readUpdate
  | delete => exact agree_readDelete
  | alter => exact agree_readAlter
  | drop => exact agree_readDrop
  | join => exact agree_readJoin

/-! ## Statements -/

/-- No literal tells the form of a statement. -/
theorem form_eq_of_each {contents : Contents} {tokens tokens' : List Token}
    (h : Each (EqualBut ofContent) contents tokens tokens') :
    Form.ofTokens tokens' = Form.ofTokens tokens := by
  obtain _ | ⟨hfirst, hrest⟩ := h
  · rfl
  cases hfirst with
  | differ a b => rfl
  | same first =>
      obtain _ | ⟨hsecond, _⟩ := hrest
      · rfl
      · have hkeyword : Category.keyword ≠ .string := by decide
        simp only [Form.ofTokens, Token.is_eq_of_equalBut hsecond hkeyword]

theorem ofTokens_eq_of_form {tokens : List Token} {form : Form}
    (h : Form.ofTokens tokens = .ok form) : ofTokens tokens = (form.scan.run tokens).1 := by
  rw [ofTokens, Routine.scan, run_bind, run_ofExcept, h]

theorem ofTokens_eq_error {tokens : List Token} {fault : Fault}
    (h : Form.ofTokens tokens = .error fault) : ofTokens tokens = .error fault := by
  rw [ofTokens, Routine.scan, run_bind, run_ofExcept, h]

/-- Tokens that differ in literals are read alike, and no literal is left out. -/
theorem parallel_ofTokens {contents : Contents} {tokens tokens' : List Token}
    (hlexed : AllOf Token.Lexed tokens) (h : Each (EqualBut ofContent) contents tokens tokens') :
    Parallel (Fault.Alike contents) (Alike contents) (ofTokens tokens) (ofTokens tokens') := by
  cases hform : Form.ofTokens tokens with
  | error fault =>
      rw [ofTokens_eq_error hform, ofTokens_eq_error ((form_eq_of_each h).trans hform)]
      exact .error (.same fault)
  | ok form =>
      rw [ofTokens_eq_of_form hform, ofTokens_eq_of_form ((form_eq_of_each h).trans hform)]
      have houtcome := (agree_formScan form).outcome h
      have hall : ∀ {statement rest}, form.scan.run tokens = (.ok statement, rest) → rest = [] :=
        fun hrun => (((readsAll_form form).run_eq_ok_iff hlexed).mp hrun).2
      revert houtcome hall
      generalize form.scan.run tokens = left
      generalize form.scan.run tokens' = right
      rintro (hfault | ⟨rfl, hanswer, hrest⟩) hall
      · exact .error hfault
      · cases hall rfl
        cases hrest
        rw [List.append_nil]
        exact .ok hanswer

/-- Texts that are equal except for what stands between matching quotes are refused for
the same cause, or they are statements of the same kind that are equal except that each
value that is taken from one of these literals holds the contents of its own text. -/
theorem ofText_of_differInside {contents : Contents} {s t : String}
    (h : Fragment.DifferInside contents s.toList t.toList) :
    (∃ f g, ofText s = .error f ∧ ofText t = .error g ∧ f.kind = g.kind ∧ f.Alike contents g) ∨
      ∃ statement statement', ofText s = .ok statement ∧ ofText t = .ok statement' ∧
        statement.Alike contents statement' := by
  have hparallel : Parallel (Fault.Alike contents) (Alike contents) (ofText s) (ofText t) := by
    have htokens := Token.parallel_ofText h
    rw [ofText, ofText]
    cases hs : Token.ofText s with
    | error f =>
        rw [hs] at htokens
        generalize Token.ofText t = right at htokens
        cases htokens with
        | error heq => exact .error (heq ▸ .same f)
    | ok tokens =>
        rw [hs] at htokens
        generalize Token.ofText t = right at htokens
        cases htokens with
        | ok heach => exact parallel_ofTokens (Token.lexed_of_ofText hs) heach
  revert hparallel
  generalize ofText s = left
  generalize ofText t = right
  rintro (hfault | hanswer)
  · exact Or.inl ⟨_, _, rfl, rfl, hfault.kind_eq, hfault⟩
  · exact Or.inr ⟨_, _, rfl, rfl, hanswer⟩

theorem ofText_of_differInside_update :
    let s := "UPDATE t SET c = 'x' WHERE c == 'TRUE';"
    let t := "UPDATE t SET c = ');' WHERE c == '';"
    let contents := [("x".toList, ");".toList), ("TRUE".toList, [])]
    Fragment.DifferInside contents s.toList t.toList ∧
      ((∃ f g, ofText s = .error f ∧ ofText t = .error g ∧ f.kind = g.kind ∧
          f.Alike contents g) ∨
        ∃ statement statement', ofText s = .ok statement ∧ ofText t = .ok statement' ∧
          statement.Alike contents statement') := by
  have hbefore : Even ("UPDATE t SET c = ".toList.count Fragment.quote) := by decide
  have hbetween : Even (" WHERE c == ".toList.count Fragment.quote) := by decide
  have hdiffer : Fragment.DifferInside [("x".toList, ");".toList), ("TRUE".toList, [])]
      "UPDATE t SET c = 'x' WHERE c == 'TRUE';".toList
      "UPDATE t SET c = ');' WHERE c == '';".toList :=
    .differ hbefore ⟨by decide, by decide⟩ ⟨by decide, by decide⟩
      (.differ hbetween ⟨by decide, by decide⟩ ⟨by decide, by decide⟩ (.same ";".toList))
  exact ⟨hdiffer, ofText_of_differInside hdiffer⟩

end Statement

end TextTables
