import TextTables.Proofs.Condition.Reading
import TextTables.Proofs.Token.Literals

/-!
# Conditions read from tokens that differ in literals

Two lists of tokens that differ in literals only are read as conditions of the same form,
or both are refused for the same cause.  What the reader has read so far holds the
contents of the literals that it has passed, the tokens ahead hold the others, and
together they are all of them at every step.
-/

namespace TextTables

open Fragment (quoted)
open Token (ofContent)

/-- The causes that quote the token that they are about. -/
def Fault.quoting : List (String → Fault) :=
  [.unexpectedToken, .afterSemicolon, .columnExpected, .conditionContinues]

/-- The same cause, also where it quotes a literal. -/
inductive Fault.Alike (contents : Contents) : Fault → Fault → Prop
  | same (fault : Fault) : Alike contents fault fault
  | quoting {cause : String → Fault} {a b : List Char} (hcause : cause ∈ Fault.quoting)
      (hmem : (a, b) ∈ contents) : Alike contents (cause (quoted a)) (cause (quoted b))

theorem Fault.Alike.kind_eq {contents : Contents} {f g : Fault} (h : Fault.Alike contents f g) :
    f.kind = g.kind := by
  cases h with
  | same => rfl
  | quoting hcause =>
      simp only [Fault.quoting, List.mem_cons, List.not_mem_nil, or_false] at hcause
      rcases hcause with rfl | rfl | rfl | rfl <;> rfl

theorem Fault.Alike.mono {contents others : Contents} {f g : Fault}
    (h : Fault.Alike contents f g) (hsubset : contents ⊆ others) : Fault.Alike others f g := by
  cases h with
  | same => exact .same f
  | quoting hcause hmem => exact .quoting hcause (hsubset hmem)

theorem Fault.alike_quoting {part total : Contents} {x y : String} {cause : String → Fault}
    (h : EqualBut quoted part x y) (hcause : cause ∈ Fault.quoting) (hpart : part ⊆ total) :
    Fault.Alike total (cause x) (cause y) := by
  cases h with
  | same => exact .same _
  | differ a b => exact .quoting hcause (hpart (List.mem_singleton_self _))

/-! ## Tokens -/

namespace Token

variable {contents : Contents} {t u : Token}

theorem category_eq_of_equalBut (h : EqualBut ofContent contents t u) :
    t.category = u.category := by
  cases h <;> rfl

theorem value_of_equalBut (h : EqualBut ofContent contents t u) :
    EqualBut quoted contents t.value u.value := by
  cases h with
  | same => exact .same _
  | differ a b => exact .differ a b

theorem stripQuotes_of_equalBut (h : EqualBut ofContent contents t u) :
    EqualBut String.ofList contents (stripQuotes t.value) (stripQuotes u.value) := by
  cases h with
  | same => exact .same _
  | differ a b =>
      rw [ofContent, ofContent, stripQuotes_quoted, stripQuotes_quoted]
      exact .differ a b

/-- Only literals differ. -/
theorem eq_of_equalBut (h : EqualBut ofContent contents t u) (hcategory : t.category ≠ .string) :
    contents = [] ∧ t = u := by
  cases h with
  | same => exact ⟨rfl, rfl⟩
  | differ => exact absurd rfl hcategory

theorem is_ofContent {category : Category} (hcategory : category ≠ .string) (value : String)
    (content : List Char) : (ofContent content).is category value = false := by
  rw [Token.is, ofContent, beq_false_of_ne hcategory.symm, Bool.false_and]

theorem is_eq_of_equalBut (h : EqualBut ofContent contents t u) {category : Category}
    (hcategory : category ≠ .string) (value : String) :
    u.is category value = t.is category value := by
  cases h with
  | same => rfl
  | differ => rw [is_ofContent hcategory, is_ofContent hcategory]

/-- A token that is looked for outside of literals is the same one in both lists. -/
theorem eq_of_is {category : Category} {value : String} (h : EqualBut ofContent contents t u)
    (his : t.is category value = true) (hcategory : category ≠ .string) :
    contents = [] ∧ t = u := by
  refine eq_of_equalBut h ?_
  rw [Token.is, Bool.and_eq_true, beq_iff_eq] at his
  rwa [his.1]

end Token

/-! ## Conditions -/

/-- Both are there or both are missing. -/
inductive Optional {α : Type} (R : Contents → α → α → Prop) :
    Contents → Option α → Option α → Prop
  | none : Optional R [] none none
  | some {contents : Contents} {a b : α} (h : R contents a b) :
      Optional R contents (some a) (some b)

namespace Condition

/-- Conditions of the same form about the same columns.  A comparison sign or a literal
holds the contents of the literal that it is taken from. -/
inductive Alike : Contents → Condition → Condition → Prop
  | test {contents more : Contents} {sign sign' literal literal' : String} (column : String)
      (hsign : EqualBut quoted contents sign sign')
      (hliteral : EqualBut String.ofList more literal literal') :
      Alike (contents ++ more) (.test column sign literal) (.test column sign' literal')
  | both {contents more : Contents} {left left' right right' : Condition}
      (hleft : Alike contents left left') (hright : Alike more right right') :
      Alike (contents ++ more) (.both left right) (.both left' right')
  | either {contents more : Contents} {left left' right right' : Condition}
      (hleft : Alike contents left left') (hright : Alike more right right') :
      Alike (contents ++ more) (.either left right) (.either left' right')

/-- Groups in which the same has been read. -/
inductive Group.Alike : Contents → Group → Group → Prop
  | intro {contents more : Contents} {before before' since since' : Option Condition}
      (hbefore : Optional Condition.Alike contents before before')
      (hsince : Optional Condition.Alike more since since') :
      Group.Alike (contents ++ more) ⟨before, since⟩ ⟨before', since'⟩

theorem Group.alike_start : Group.Alike [] .start .start :=
  .intro .none .none

/-- The groups around the reader, the innermost first.  The contents of the outermost
stand first. -/
inductive AlikeAround : Contents → List Group → List Group → Prop
  | nil : AlikeAround [] [] []
  | cons {contents more : Contents} {group group' : Group} {around around' : List Group}
      (haround : AlikeAround contents around around') (hgroup : group.Alike more group') :
      AlikeAround (contents ++ more) (group :: around) (group' :: around')

/-- The reader stands at the same place and has read the same. -/
inductive Reading.Alike : Contents → Reading → Reading → Prop
  | operand {contents : Contents} {group group' : Group} (hgroup : group.Alike contents group') :
      Reading.Alike contents (.operand group) (.operand group')
  | junction {contents more : Contents} {group group' : Group}
      {conjunction conjunction' : Condition}
      (hgroup : Optional Condition.Alike contents group.alternative group'.alternative)
      (hconjunction : Condition.Alike more conjunction conjunction') :
      Reading.Alike (contents ++ more) (.junction group conjunction)
        (.junction group' conjunction')

variable {contents more : Contents}

theorem Group.alike_close {group group' : Group} {conjunction conjunction' : Condition}
    (hgroup : Optional Condition.Alike contents group.alternative group'.alternative)
    (hconjunction : Condition.Alike more conjunction conjunction') :
    Condition.Alike (contents ++ more) (group.close conjunction) (group'.close conjunction') := by
  obtain ⟨alternative, _⟩ := group
  obtain ⟨alternative', _⟩ := group'
  change Optional Condition.Alike contents alternative alternative' at hgroup
  unfold Group.close
  cases hgroup with
  | none => exact hconjunction
  | some halternative => exact .either halternative hconjunction

/-- One more operand, behind what has been read in a group. -/
theorem Reading.alike_conjoin {group group' : Group} {operand operand' : Condition}
    (hgroup : group.Alike contents group') (hoperand : Condition.Alike more operand operand') :
    Reading.Alike (contents ++ more) (.junction group (group.conjoin operand))
      (.junction group' (group'.conjoin operand')) := by
  obtain ⟨hbefore, hsince⟩ := hgroup
  rw [List.append_assoc]
  refine .junction hbefore ?_
  unfold Group.conjoin
  cases hsince with
  | none => exact hoperand
  | some hconjunction => exact .both hconjunction hoperand

/-- Both readers take the same step at every token, so they end alike. -/
theorem parallel_readOn {reading reading' : Reading} {around around' : List Group}
    {tokens tokens' : List Token} {passed here ahead total : Contents}
    (haround : AlikeAround passed around around') (hreading : reading.Alike here reading')
    (htokens : Each (EqualBut ofContent) ahead tokens tokens')
    (htotal : passed ++ (here ++ ahead) = total) :
    Parallel (Fault.Alike total) (Condition.Alike total) (readOn reading around tokens)
      (readOn reading' around' tokens') := by
  fun_induction readOn reading around tokens
    generalizing reading' around' tokens' passed here ahead with
  | case1 =>
      cases htokens
      cases hreading
      exact .error (.same _)
  | case2 =>
      cases htokens
      cases hreading
      cases haround
      exact .error (.same _)
  | case3 =>
      cases htokens
      cases haround
      obtain _ | ⟨hgroup, hconjunction⟩ := hreading
      have hclose := Group.alike_close hgroup hconjunction
      rw [List.nil_append, List.append_nil] at htotal
      exact .ok (htotal ▸ hclose)
  | case4 around token rest group hopen ih =>
      obtain _ | ⟨htoken, hrest⟩ := htokens
      obtain ⟨hgroup⟩ | _ := hreading
      obtain ⟨rfl, rfl⟩ := Token.eq_of_is htoken hopen (by decide)
      rw [readOn_operand, if_pos hopen]
      refine ih (.cons haround hgroup) (.operand Group.alike_start) hrest ?_
      simpa using htotal
  | case5 around token rest group hopen hcategory =>
      obtain _ | ⟨htoken, hrest⟩ := htokens
      obtain ⟨hgroup⟩ | _ := hreading
      rw [← Token.is_eq_of_equalBut htoken (by decide)] at hopen
      rw [Token.category_eq_of_equalBut htoken] at hcategory
      rw [readOn_operand, if_neg hopen, if_pos hcategory]
      refine .error (Fault.alike_quoting (Token.value_of_equalBut htoken) (by simp [Fault.quoting])
        fun pair hpair => ?_)
      simp [← htotal, hpair]
  | case6 around token group hopen hcategory sign literal rest hliteral operand =>
      rename_i ih
      obtain _ | ⟨htoken, _ | ⟨hsign, _ | ⟨hvalue, hrest⟩⟩⟩ := htokens
      obtain ⟨hgroup⟩ | _ := hreading
      obtain ⟨rfl, rfl⟩ := Token.eq_of_equalBut htoken (by simp_all)
      rw [Token.category_eq_of_equalBut hvalue] at hliteral
      rw [readOn_operand, if_neg hopen, if_neg hcategory]
      simp only [hliteral, if_true]
      have htest := Alike.test token.value (Token.value_of_equalBut hsign)
        (Token.stripQuotes_of_equalBut hvalue)
      refine ih haround (Reading.alike_conjoin hgroup htest) hrest ?_
      simpa using htotal
  | case7 around token group hopen hcategory sign literal rest hliteral =>
      obtain _ | ⟨htoken, _ | ⟨hsign, _ | ⟨hvalue, hrest⟩⟩⟩ := htokens
      obtain ⟨hgroup⟩ | _ := hreading
      obtain ⟨rfl, rfl⟩ := Token.eq_of_equalBut htoken (by simp_all)
      -- A literal would do here, so this token is none.
      have hnot : literal.category ≠ .string := by
        intro hstring
        rw [hstring] at hliteral
        exact hliteral rfl
      obtain ⟨rfl, rfl⟩ := Token.eq_of_equalBut hvalue hnot
      rw [readOn_operand, if_neg hopen, if_neg hcategory]
      simp only [hliteral]
      exact .error (.same _)
  | case8 around token rest group hopen hcategory hshort =>
      obtain _ | ⟨htoken, hrest⟩ := htokens
      obtain ⟨hgroup⟩ | _ := hreading
      obtain ⟨rfl, rfl⟩ := Token.eq_of_equalBut htoken (by simp_all)
      rw [readOn_operand, if_neg hopen, if_neg hcategory]
      obtain _ | ⟨_, _ | _⟩ := hrest
      · exact .error (.same _)
      · exact .error (.same _)
      · exact absurd rfl (hshort _ _ _)
  | case9 around token rest group conjunction hand ih =>
      obtain _ | ⟨htoken, hrest⟩ := htokens
      obtain _ | ⟨hgroup, hconjunction⟩ := hreading
      obtain ⟨rfl, rfl⟩ := Token.eq_of_is htoken hand (by decide)
      rw [readOn_junction, if_pos hand]
      exact ih haround (.operand (.intro hgroup (.some hconjunction))) hrest htotal
  | case10 around token rest group conjunction hand hor ih =>
      obtain _ | ⟨htoken, hrest⟩ := htokens
      obtain _ | ⟨hgroup, hconjunction⟩ := hreading
      obtain ⟨rfl, rfl⟩ := Token.eq_of_is htoken hor (by decide)
      rw [readOn_junction, if_neg hand, if_pos hor]
      refine ih haround (.operand (.intro (.some (Group.alike_close hgroup hconjunction)) .none))
        hrest ?_
      simpa using htotal
  | case11 token rest group conjunction hand hor =>
      obtain _ | ⟨htoken, hrest⟩ := htokens
      obtain _ | ⟨hgroup, hconjunction⟩ := hreading
      cases haround
      rw [← Token.is_eq_of_equalBut htoken (by decide)] at hand hor
      rw [readOn_junction, if_neg hand, if_neg hor]
      refine .error (Fault.alike_quoting (Token.value_of_equalBut htoken) (by simp [Fault.quoting])
        fun pair hpair => ?_)
      simp [← htotal, hpair]
  | case12 token rest group conjunction hand hor outer around hclose operand =>
      rename_i ih
      obtain _ | ⟨htoken, hrest⟩ := htokens
      obtain _ | ⟨hgroup, hconjunction⟩ := hreading
      obtain _ | ⟨haround, houter⟩ := haround
      obtain ⟨rfl, rfl⟩ := Token.eq_of_is htoken hclose (by decide)
      rw [readOn_junction, if_neg hand, if_neg hor]
      simp only [hclose, if_true]
      refine ih haround (Reading.alike_conjoin houter (Group.alike_close hgroup hconjunction))
        hrest ?_
      simpa using htotal
  | case13 token rest group conjunction hand hor outer around hclose =>
      obtain _ | ⟨htoken, hrest⟩ := htokens
      obtain _ | ⟨hgroup, hconjunction⟩ := hreading
      obtain _ | ⟨haround, houter⟩ := haround
      rw [← Token.is_eq_of_equalBut htoken (by decide)] at hand hor hclose
      rw [readOn_junction, if_neg hand, if_neg hor]
      simp only [hclose]
      exact .error (.same _)

/-- Conditions are read alike from tokens that differ in literals. -/
theorem parallel_ofTokens {contents : Contents} {tokens tokens' : List Token}
    (h : Each (EqualBut ofContent) contents tokens tokens') :
    Parallel (Fault.Alike contents) (Condition.Alike contents) (ofTokens tokens)
      (ofTokens tokens') :=
  parallel_readOn .nil (.operand Group.alike_start) h rfl

end Condition

end TextTables
