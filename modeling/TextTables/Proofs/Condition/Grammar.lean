import TextTables.Proofs.Statement.Recognition

/-!
# The grammar of conditions

A condition is written as alternatives with `OR` between them, an alternative as operands
with `AND` between them, and an operand as a test or as a condition in parentheses.  The
derivations of this grammar are trees that hold each token in one place, so what a
derivation is of is read off it from left to right.  The reader of conditions accepts
exactly the lists of tokens that have a derivation.
-/

namespace TextTables

/-- The token is the word `OR`, in any case. -/
def Grammar.OrWord (token : Token) : Prop :=
  token.is .logicalOperator "OR" = true

namespace Condition

open Grammar

/-- What a part of a condition is: alternatives with `OR` between them, operands with
`AND` between them, or one operand. -/
inductive Level where
  | disjunction
  | conjunction
  | operand
deriving Repr, DecidableEq

/-- A condition as it is written.  What repeats is grouped to the left: before the last
`OR` stands a disjunction again, and before the last `AND` a conjunction. -/
inductive Writing : Level → Type
  | test (column sign literal : Token) (hcolumn : column.category = .identifier)
      (hliteral : isLiteralCategory literal.category = true) : Writing .operand
  | group (left : Token) (inner : Writing .disjunction) (right : Token)
      (hleft : Mark "(" left) (hright : Mark ")" right) : Writing .operand
  | single (operand : Writing .operand) : Writing .conjunction
  | both (left : Writing .conjunction) (word : Token) (right : Writing .operand)
      (hword : AndWord word) : Writing .conjunction
  | only (conjunction : Writing .conjunction) : Writing .disjunction
  | either (left : Writing .disjunction) (word : Token) (right : Writing .conjunction)
      (hword : OrWord word) : Writing .disjunction

namespace Writing

/-- The tokens, from left to right. -/
def tokens : {level : Level} → Writing level → List Token
  | _, test column sign literal _ _ => [column, sign, literal]
  | _, group left inner right _ _ => left :: (inner.tokens ++ [right])
  | _, single operand => operand.tokens
  | _, both left word right _ => left.tokens ++ word :: right.tokens
  | _, only conjunction => conjunction.tokens
  | _, either left word right _ => left.tokens ++ word :: right.tokens

/-- The condition that is written.  Literals stand for what is between their quotes. -/
def condition : {level : Level} → Writing level → Condition
  | _, test column sign literal _ _ =>
    .test column.value sign.value (Token.stripQuotes literal.value)
  | _, group _ inner _ _ _ => inner.condition
  | _, single operand => operand.condition
  | _, both left _ right _ => .both left.condition right.condition
  | _, only conjunction => conjunction.condition
  | _, either left _ right _ => .either left.condition right.condition

/-- Nothing is written with no tokens. -/
theorem tokens_ne_nil {level : Level} (writing : Writing level) : writing.tokens ≠ [] := by
  induction writing with
  | test | group => exact List.cons_ne_nil _ _
  | single _ ih | only _ ih => exact ih
  | both _ _ _ _ ih | either _ _ _ _ ih => exact List.append_ne_nil_of_left_ne_nil ih _

end Writing

/-- Tokens that a condition is written with. -/
def Spelled (level : Level) (tokens : List Token) (condition : Condition) : Prop :=
  ∃ writing : Writing level, writing.tokens = tokens ∧ writing.condition = condition

section

variable {tokens more : List Token} {condition left right : Condition}

theorem spelled_test {column sign literal : Token} (hcolumn : column.category = .identifier)
    (hliteral : isLiteralCategory literal.category = true) :
    Spelled .operand [column, sign, literal]
      (test column.value sign.value (Token.stripQuotes literal.value)) :=
  ⟨.test column sign literal hcolumn hliteral, rfl, rfl⟩

theorem Spelled.group (h : Spelled .disjunction tokens condition) {opening closing : Token}
    (hopening : Mark "(" opening) (hclosing : Mark ")" closing) :
    Spelled .operand (opening :: (tokens ++ [closing])) condition := by
  obtain ⟨writing, rfl, rfl⟩ := h
  exact ⟨.group opening writing closing hopening hclosing, rfl, rfl⟩

theorem Spelled.single (h : Spelled .operand tokens condition) :
    Spelled .conjunction tokens condition := by
  obtain ⟨writing, rfl, rfl⟩ := h
  exact ⟨.single writing, rfl, rfl⟩

theorem Spelled.both (hleft : Spelled .conjunction tokens left) {word : Token}
    (hword : AndWord word) (hright : Spelled .operand more right) :
    Spelled .conjunction (tokens ++ word :: more) (both left right) := by
  obtain ⟨first, rfl, rfl⟩ := hleft
  obtain ⟨second, rfl, rfl⟩ := hright
  exact ⟨.both first word second hword, rfl, rfl⟩

theorem Spelled.only (h : Spelled .conjunction tokens condition) :
    Spelled .disjunction tokens condition := by
  obtain ⟨writing, rfl, rfl⟩ := h
  exact ⟨.only writing, rfl, rfl⟩

theorem Spelled.either (hleft : Spelled .disjunction tokens left) {word : Token}
    (hword : OrWord word) (hright : Spelled .conjunction more right) :
    Spelled .disjunction (tokens ++ word :: more) (either left right) := by
  obtain ⟨first, rfl, rfl⟩ := hleft
  obtain ⟨second, rfl, rfl⟩ := hright
  exact ⟨.either first word second hword, rfl, rfl⟩

end

/-! ## Steps of the reader -/

section

variable {group outer : Group} {around : List Group} {rest : List Token} {conjunction : Condition}

theorem readOn_opening {opening : Token} (h : Mark "(" opening) :
    readOn (.operand group) around (opening :: rest) =
      readOn (.operand .start) (group :: around) rest := by
  rw [readOn_operand]
  exact if_pos h

theorem readOn_test {column sign literal : Token} (hcolumn : column.category = .identifier)
    (hliteral : isLiteralCategory literal.category = true) :
    readOn (.operand group) around (column :: sign :: literal :: rest) =
      readOn (.junction group (group.conjoin (test column.value sign.value
        (Token.stripQuotes literal.value)))) around rest := by
  have hopening : column.is .symbol "(" = false := by
    rw [Token.is, hcolumn]
    rfl
  rw [readOn_operand, if_neg (Bool.eq_false_iff.mp hopening), if_neg (by simp [hcolumn])]
  exact if_pos hliteral

theorem readOn_and {word : Token} (h : AndWord word) :
    readOn (.junction group conjunction) around (word :: rest) =
      readOn (.operand ⟨group.alternative, some conjunction⟩) around rest := by
  rw [readOn_junction]
  exact if_pos h

theorem readOn_or {word : Token} (h : OrWord word) :
    readOn (.junction group conjunction) around (word :: rest) =
      readOn (.operand ⟨some (group.close conjunction), none⟩) around rest := by
  have hand : word.is .logicalOperator "AND" = false :=
    Scan.not_is_of_is h (Or.inr (by decide))
  rw [readOn_junction, if_neg (Bool.eq_false_iff.mp hand)]
  exact if_pos h

theorem readOn_closing {closing : Token} (h : Mark ")" closing) :
    readOn (.junction group conjunction) (outer :: around) (closing :: rest) =
      readOn (.junction outer (outer.conjoin (group.close conjunction))) around rest := by
  have hand : closing.is .logicalOperator "AND" = false :=
    Scan.not_is_of_is h (Or.inl (by decide))
  have hor : closing.is .logicalOperator "OR" = false :=
    Scan.not_is_of_is h (Or.inl (by decide))
  rw [readOn_junction, if_neg (Bool.eq_false_iff.mp hand), if_neg (Bool.eq_false_iff.mp hor)]
  exact if_pos h

end

/-! ## What is written is read -/

/-- Where an operand has ended, only what stands before the last `OR` of its group makes a
difference. -/
theorem readOn_junction_congr (alternative since other : Option Condition)
    (conjunction : Condition) (around : List Group) (tokens : List Token) :
    readOn (.junction ⟨alternative, since⟩ conjunction) around tokens =
      readOn (.junction ⟨alternative, other⟩ conjunction) around tokens := by
  cases tokens with
  | nil =>
      cases around with
      | nil => rfl
      | cons outer around => rfl
  | cons token rest =>
      rw [readOn_junction, readOn_junction]
      rfl

/-- What the reader makes of a part that begins where it stands, whatever comes behind.  An
operand is added to the group that is open, and a conjunction to one that has just had an
`OR`; a disjunction begins a group of its own. -/
def Writing.IsRead : {level : Level} → Writing level → Prop
  | .operand, writing => ∀ group around rest,
    readOn (.operand group) around (writing.tokens ++ rest) =
      readOn (.junction group (group.conjoin writing.condition)) around rest
  | .conjunction, writing => ∀ alternative around rest,
    readOn (.operand ⟨alternative, none⟩) around (writing.tokens ++ rest) =
      readOn (.junction ⟨alternative, none⟩ writing.condition) around rest
  | .disjunction, writing => ∃ group conjunction, group.close conjunction = writing.condition ∧
    ∀ around rest, readOn (.operand .start) around (writing.tokens ++ rest) =
      readOn (.junction group conjunction) around rest

/-- The derivation is followed from left to right: every part of it takes the reader from an
operand to a junction. -/
theorem Writing.isRead {level : Level} (writing : Writing level) : writing.IsRead := by
  induction writing with
  | test column sign literal hcolumn hliteral =>
      exact fun group around rest => readOn_test hcolumn hliteral
  | group left inner right hleft hright ih =>
      intro group around rest
      obtain ⟨last, conjunction, hclose, hread⟩ := ih
      rw [tokens, List.cons_append, List.append_assoc, readOn_opening hleft, hread,
        List.singleton_append, readOn_closing hright, hclose]
      rfl
  | single operand ih => exact fun alternative around rest => ih ⟨alternative, none⟩ around rest
  | both left word right hword hleft hright =>
      intro alternative around rest
      rw [tokens, List.append_assoc, List.cons_append, hleft, readOn_and hword, hright]
      exact readOn_junction_congr alternative (some left.condition) none _ around rest
  | only conjunction ih => exact ⟨.start, conjunction.condition, rfl, ih none⟩
  | either left word right hword hleft hright =>
      obtain ⟨group, conjunction, hclose, hread⟩ := hleft
      refine ⟨⟨some left.condition, none⟩, right.condition, rfl, fun around rest => ?_⟩
      rw [tokens, List.append_assoc, List.cons_append, hread, readOn_or hword, hclose, hright]

theorem Writing.ofTokens_tokens (writing : Writing .disjunction) :
    ofTokens writing.tokens = .ok writing.condition := by
  obtain ⟨group, conjunction, hclose, hread⟩ := writing.isRead
  have hall := hread [] []
  rw [List.append_nil] at hall
  rw [ofTokens, hall, ← hclose]
  rfl

/-! ## What is read is written -/

/-- Tokens that end with a word and stand for what is before it, or no tokens. -/
inductive Before (Joins : Token → Prop) (level : Level) : List Token → Option Condition → Prop
  | none : Before Joins level [] none
  | some {tokens : List Token} {condition : Condition} {word : Token}
      (h : Spelled level tokens condition) (hword : Joins word) :
      Before Joins level (tokens ++ [word]) (some condition)

/-- Tokens that have been read in a group up to where an operand comes next. -/
def Group.IsAfter (tokens : List Token) (group : Group) : Prop :=
  ∃ alternatives operands, tokens = alternatives ++ operands ∧
    Before OrWord .disjunction alternatives group.alternative ∧
    Before AndWord .conjunction operands group.conjunction

/-- Tokens that have been read in the groups that are open, the innermost first. -/
inductive AreAfter : List Token → List Group → Prop
  | nil : AreAfter [] []
  | cons {before inside : List Token} {opening : Token} {group : Group} {around : List Group}
      (haround : AreAfter before around) (hgroup : group.IsAfter inside)
      (hopening : Mark "(" opening) :
      AreAfter (before ++ (inside ++ [opening])) (group :: around)

/-- Tokens that have been read in the innermost group up to where the reader stands. -/
inductive Reading.IsAfter : List Token → Reading → Prop
  | operand {tokens : List Token} {group : Group} (hgroup : group.IsAfter tokens) :
      Reading.IsAfter tokens (.operand group)
  | junction {alternatives tokens : List Token} {group : Group} {conjunction : Condition}
      (hgroup : Before OrWord .disjunction alternatives group.alternative)
      (hconjunction : Spelled .conjunction tokens conjunction) :
      Reading.IsAfter (alternatives ++ tokens) (.junction group conjunction)

theorem Group.isAfter_start : Group.start.IsAfter [] :=
  ⟨[], [], rfl, .none, .none⟩

theorem Group.spelled_close {alternatives tokens : List Token} {group : Group}
    {conjunction : Condition} (hgroup : Before OrWord .disjunction alternatives group.alternative)
    (hconjunction : Spelled .conjunction tokens conjunction) :
    Spelled .disjunction (alternatives ++ tokens) (group.close conjunction) := by
  obtain ⟨alternative, _⟩ := group
  unfold Group.close
  cases hgroup with
  | none => exact hconjunction.only
  | some hleft hword =>
      rw [List.append_assoc]
      exact hleft.either hword hconjunction

/-- One more operand, behind what has been read in a group. -/
theorem Group.IsAfter.conjoin {inside tokens : List Token} {group : Group} {operand : Condition}
    (hgroup : group.IsAfter inside) (hoperand : Spelled .operand tokens operand) :
    Reading.IsAfter (inside ++ tokens) (.junction group (group.conjoin operand)) := by
  obtain ⟨alternatives, operands, rfl, hbefore, hsince⟩ := hgroup
  rw [List.append_assoc]
  refine .junction hbefore ?_
  obtain ⟨_, conjunction⟩ := group
  unfold Group.conjoin
  cases hsince with
  | none => exact hoperand.single
  | some hleft hword =>
      rw [List.append_assoc]
      exact hleft.both hword hoperand

/-- Whatever has been read and is still to be read makes one condition.  At every token the
reader moves it from what is ahead to what has been read. -/
theorem spelled_of_readOn_eq_ok {reading : Reading} {around : List Group}
    {before inside tokens : List Token} {condition : Condition}
    (haround : AreAfter before around) (hreading : reading.IsAfter inside)
    (h : readOn reading around tokens = .ok condition) :
    Spelled .disjunction (before ++ (inside ++ tokens)) condition := by
  fun_induction readOn reading around tokens generalizing before inside with
  | case1 => cases h
  | case2 => cases h
  | case3 group conjunction =>
      cases h
      cases haround
      obtain _ | ⟨hgroup, hconjunction⟩ := hreading
      rw [List.nil_append, List.append_nil]
      exact Group.spelled_close hgroup hconjunction
  | case4 around token rest group hopening ih =>
      obtain ⟨hgroup⟩ | _ := hreading
      have hmore := ih (.cons haround hgroup hopening) (.operand Group.isAfter_start) h
      simpa using hmore
  | case5 => cases h
  | case6 around token group hopening hcategory sign literal rest hliteral operand =>
      rename_i ih
      obtain ⟨hgroup⟩ | _ := hreading
      have hcolumn : token.category = .identifier := by simpa using hcategory
      have hmore := ih haround (hgroup.conjoin (spelled_test hcolumn hliteral)) h
      simpa using hmore
  | case7 => cases h
  | case8 => cases h
  | case9 around token rest group conjunction hand ih =>
      obtain _ | ⟨hgroup, hconjunction⟩ := hreading
      have hmore := ih haround (.operand ⟨_, _, rfl, hgroup, .some hconjunction hand⟩) h
      simpa using hmore
  | case10 around token rest group conjunction hand hor ih =>
      obtain _ | ⟨hgroup, hconjunction⟩ := hreading
      have hclosed := Group.spelled_close hgroup hconjunction
      have hmore := ih haround (.operand ⟨_, _, rfl, .some hclosed hor, .none⟩) h
      simpa using hmore
  | case11 => cases h
  | case12 token rest group conjunction hand hor outer around hclosing operand =>
      rename_i ih
      obtain _ | ⟨hgroup, hconjunction⟩ := hreading
      obtain _ | ⟨haround, houter, hopening⟩ := haround
      have hinner := (Group.spelled_close hgroup hconjunction).group hopening hclosing
      have hmore := ih haround (houter.conjoin hinner) h
      simpa using hmore
  | case13 => cases h

/-- A condition is read from tokens exactly if it is written with them. -/
theorem ofTokens_eq_ok_iff {tokens : List Token} {condition : Condition} :
    ofTokens tokens = .ok condition ↔ Spelled .disjunction tokens condition := by
  constructor
  · exact spelled_of_readOn_eq_ok .nil (.operand Group.isAfter_start)
  · rintro ⟨writing, rfl, rfl⟩
    exact writing.ofTokens_tokens

end Condition

end TextTables
