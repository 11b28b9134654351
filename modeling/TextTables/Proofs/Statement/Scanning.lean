import TextTables.Proofs.Attempt
import TextTables.Proofs.Condition.Reading
import TextTables.Proofs.Token.Lexed
import TextTables.Proofs.Token.Names

/-!
# What scans read

A scan takes tokens off a list and leaves the rest.  `Yields` says that from tokens
without a foreign character it reads something of a certain kind, or fails for a cause
that does not repeat the character, and that it leaves tokens without it.  There is one
rule for each scan of the library, and one for each way to put scans together, so a
statement is treated routine by routine.
-/

namespace TextTables

namespace Scan

open Attempt
open Text (sameWord FreeOf Foreign)

variable {α β : Type} {c : Char}

/-- All of the tokens have a property. -/
def AllOf (P : Token → Prop) (tokens : List Token) : Prop :=
  ∀ token ∈ tokens, P token

/-- From tokens without the character the scan reads something with `Q`, or it fails for a
cause without the character.  It leaves tokens without it either way. -/
def Yields (c : Char) (scan : Scan α) (Q : α → Prop) : Prop :=
  ∀ tokens, AllOf (Token.LexedFree c) tokens →
    Satisfies (Fault.Avoids c) Q (scan.run tokens).1 ∧
      AllOf (Token.LexedFree c) (scan.run tokens).2

/-! ## Putting scans together -/

theorem yields_pure {Q : α → Prop} {a : α} (h : Q a) : Yields c (pure a) Q :=
  fun _ htokens => ⟨.ok h, htokens⟩

theorem yields_fail {Q : α → Prop} {fault : Fault} (h : fault.Avoids c) :
    Yields c (fail fault : Scan α) Q :=
  fun _ htokens => ⟨.error h, htokens⟩

theorem yields_ofExcept {Q : α → Prop} {answer : Except Fault α}
    (h : Satisfies (Fault.Avoids c) Q answer) : Yields c (ofExcept answer) Q :=
  fun _ htokens => ⟨h, htokens⟩

theorem Yields.bind {R : α → Prop} {Q : β → Prop} {scan : Scan α} {next : α → Scan β}
    (hfirst : Yields c scan R) (hnext : ∀ a, R a → Yields c (next a) Q) :
    Yields c (scan >>= next) Q := by
  intro tokens htokens
  obtain ⟨hanswer, hrest⟩ := hfirst tokens htokens
  rw [run_bind]
  split
  · next a rest hrun =>
      rw [hrun] at hanswer hrest
      exact hnext a (hanswer.of_eq_ok rfl) rest hrest
  · next fault rest hrun =>
      rw [hrun] at hanswer hrest
      exact ⟨.error (hanswer.of_eq_error rfl), hrest⟩

theorem Yields.mono {Q R : α → Prop} {scan : Scan α} (h : Yields c scan Q)
    (himp : ∀ a, Q a → R a) : Yields c scan R := by
  intro tokens htokens
  obtain ⟨hanswer, hrest⟩ := h tokens htokens
  exact ⟨hanswer.mono himp, hrest⟩

/-- A list is read under an invariant of the entries read so far, last first. -/
theorem yields_listUpTo {I : List α → Prop} {entry : List α → Scan α}
    (hentry : ∀ before, I before → Yields c (entry before) fun a => I (a :: before))
    (haccept : Yields c (accept .symbol ",") fun _ => True) (bound : Nat)
    {before : List α} (hbefore : I before) :
    Yields c (listUpTo entry bound before) fun found => I found.reverse := by
  induction bound generalizing before with
  | zero => exact yields_pure (by rwa [List.reverse_reverse])
  | succ bound ih =>
      refine (hentry before hbefore).bind fun a ha => ?_
      refine haccept.bind fun continues _ => ?_
      cases continues with
      | true => exact ih ha
      | false => exact yields_pure (by rwa [List.reverse_reverse])

/-! ## The scans of single tokens -/

theorem AllOf.tail {P : Token → Prop} {token : Token} {rest : List Token}
    (h : AllOf P (token :: rest)) : AllOf P rest :=
  fun other hother => h other (List.mem_cons_of_mem _ hother)

theorem yields_accept (category : Category) (value : String) :
    Yields c (accept category value) fun _ => True := by
  intro tokens htokens
  cases tokens with
  | nil => exact ⟨.ok trivial, htokens⟩
  | cons token more =>
      simp only [Attempt.run, accept]
      split
      · exact ⟨.ok trivial, htokens.tail⟩
      · exact ⟨.ok trivial, htokens⟩

theorem yields_next : Yields c next (Token.LexedFree c) := by
  intro tokens htokens
  cases tokens with
  | nil => exact ⟨.error (Fault.avoids_of_words_eq_nil nofun rfl), htokens⟩
  | cons token more => exact ⟨.ok (htokens token List.mem_cons_self), htokens.tail⟩

/-- A keyword is a name as far as its characters go. -/
theorem yields_keyword (hc : Foreign c) (word : String) (hword : Token.isName word = true) :
    Yields c (keyword word) fun _ => True := by
  have hfree := hc.freeOf_of_isName hword
  refine (yields_accept .keyword word).bind fun found _ => ?_
  cases found with
  | true => exact yields_pure trivial
  | false => exact yields_fail (Fault.avoids_of_words_eq_singleton nofun rfl hfree)

/-- A scan of one token. -/
theorem yields_next_ofExcept {Q : α → Prop} {f : Token → Except Fault α}
    (h : ∀ token, token.LexedFree c → Satisfies (Fault.Avoids c) Q (f token)) :
    Yields c (next >>= fun token => ofExcept (f token)) Q :=
  yields_next.bind fun token htoken => yields_ofExcept (h token htoken)

theorem yields_mark (category : Category) (text : String) :
    Yields c (mark category text) fun _ => True := by
  refine yields_next_ofExcept fun token htoken => ?_
  unfold markOf
  split
  · exact .error (Fault.avoids_of_words_eq_nil nofun rfl)
  split
  · exact .ok trivial
  · exact .error (Fault.avoids_of_words_eq_singleton nofun rfl htoken.freeOf)

theorem yields_list {I : List α → Prop} {entry : List α → Scan α}
    (hstart : I []) (hentry : ∀ before, I before →
      Yields c (entry before) fun a => I (a :: before)) :
    Yields c (list entry) fun found => I found.reverse := by
  intro tokens
  exact yields_listUpTo hentry (yields_accept _ _) (tokens.length + 1) hstart tokens

/-- The scan of a clause, token by token. -/
theorem clauseTokens_cons (depth : Nat) (token : Token) (rest : List Token) :
    clauseTokens depth (token :: rest) =
      if token.is .symbol ";" then
        (if depth == 0 then .ok [] else .error .unclosedParenthesis, token :: rest)
      else if token.is .symbol "(" then
        ((clauseTokens (depth + 1) rest).1.map (token :: ·), (clauseTokens (depth + 1) rest).2)
      else if token.is .symbol ")" then
        match depth with
        | 0 => (.error .unopenedParenthesis, token :: rest)
        | depth + 1 =>
          ((clauseTokens depth rest).1.map (token :: ·), (clauseTokens depth rest).2)
      else ((clauseTokens depth rest).1.map (token :: ·), (clauseTokens depth rest).2) :=
  clauseTokens.eq_def depth (token :: rest)

/-- The tokens of a clause are taken off the front. -/
theorem yields_clauseTokens (depth : Nat) :
    Yields c (clauseTokens depth) (AllOf (Token.LexedFree c)) := by
  intro tokens htokens
  change Satisfies _ _ (clauseTokens depth tokens).1 ∧ AllOf _ (clauseTokens depth tokens).2
  have hend : ∀ depth : Nat, Satisfies (Fault.Avoids c) (AllOf (Token.LexedFree c))
      (if depth == 0 then .ok [] else .error .unclosedParenthesis) := by
    intro depth
    split
    · exact .ok (List.forall_mem_nil _)
    · exact .error (Fault.avoids_of_words_eq_nil nofun rfl)
  induction tokens generalizing depth with
  | nil => exact ⟨hend depth, htokens⟩
  | cons token rest ih =>
      have hrest := fun depth => ih depth htokens.tail
      have hmore : ∀ depth, Satisfies (Fault.Avoids c) (AllOf (Token.LexedFree c))
          ((clauseTokens depth rest).1.map (token :: ·)) := fun depth =>
        (hrest depth).1.map fun inside hinside =>
          List.forall_mem_cons.mpr ⟨htokens token List.mem_cons_self, hinside⟩
      rw [clauseTokens_cons]
      split
      · exact ⟨hend depth, htokens⟩
      split
      · exact ⟨hmore (depth + 1), (hrest (depth + 1)).2⟩
      split
      · cases depth with
        | zero => exact ⟨.error (Fault.avoids_of_words_eq_nil nofun rfl), htokens⟩
        | succ depth => exact ⟨hmore depth, (hrest depth).2⟩
      · exact ⟨hmore depth, (hrest depth).2⟩

theorem yields_condition : Yields c condition fun _ => True := by
  refine (yields_accept .keyword "WHERE").bind fun found _ => ?_
  cases found with
  | true =>
      refine (yields_clauseTokens 0).bind fun inside hinside => yields_ofExcept ?_
      unfold clauseOf
      split
      · exact .ok trivial
      · refine (Condition.satisfies_readOn fun token htoken => ?_).map fun _ _ => trivial
        exact (hinside token htoken).freeOf
  | false => exact yields_pure trivial

theorem yields_finish : Yields c finish fun _ => True := by
  refine (yields_accept .symbol ";").bind fun found _ => ?_
  cases found with
  | true =>
      intro tokens htokens
      cases tokens with
      | nil => exact ⟨.ok trivial, htokens⟩
      | cons token more =>
          have hfree := (htokens token List.mem_cons_self).freeOf
          exact ⟨.error (Fault.avoids_of_words_eq_singleton nofun rfl hfree), htokens⟩
  | false => exact yields_fail (Fault.avoids_of_words_eq_nil nofun rfl)

/-! ## Names and values of lexed tokens -/

/-- The words `TRUE` and `FALSE` become one of two texts. -/
theorem capitals_eq_true_or_false {word : String}
    (h : (sameWord word "TRUE" || sameWord word "FALSE") = true) :
    Text.capitals word = "TRUE" ∨ Text.capitals word = "FALSE" := by
  rw [Bool.or_eq_true] at h
  rcases h with h | h
  · exact Or.inl ((Text.capitals_eq_of_sameWord h).trans (by decide))
  · exact Or.inr ((Text.capitals_eq_of_sameWord h).trans (by decide))

/-- The value of a token is one of these two words, or the token as it is written, if it
is the mark `*` or of one of the categories. -/
theorem valueOf_eq_ok {categories : List Category} {token : Token} {found : String}
    (h : valueOf categories token = .ok found) :
    (found = "TRUE" ∨ found = "FALSE") ∨
      found = token.value ∧ (found = "*" ∨ token.category ∈ categories ∧
        sameWord found "TRUE" = false ∧ sameWord found "FALSE" = false) := by
  unfold valueOf at h
  by_cases hstar : (token.value == "*") = true
  · rw [if_pos hstar] at h
    cases h
    exact Or.inr ⟨rfl, Or.inl (beq_iff_eq.mp hstar)⟩
  rw [if_neg hstar] at h
  by_cases hword : (sameWord token.value "TRUE" || sameWord token.value "FALSE") = true
  · rw [if_pos hword] at h
    cases h
    exact Or.inl (capitals_eq_true_or_false hword)
  rw [if_neg hword] at h
  simp only [Bool.or_eq_true, not_or, Bool.not_eq_true] at hword
  by_cases hcategory : (!categories.contains token.category) = true
  · rw [if_pos hcategory] at h
    cases h
  rw [if_neg hcategory] at h
  split at h
  · cases h
  · cases h
    exact Or.inr ⟨rfl, Or.inr ⟨by simpa using hcategory, hword⟩⟩

/-- A name is read as it is written, from a token that is a name. -/
theorem isNameWord_of_nameOf {token : Token} {found : String} (htoken : token.Lexed)
    (h : nameOf token = .ok found) : found = token.value ∧ Token.IsNameWord found := by
  unfold nameOf at h
  split at h
  · cases h
  · next value hvalue =>
      split at h
      · cases h
      · next hplain =>
          cases h
          simp only [Bool.or_eq_true, beq_iff_eq, not_or] at hplain
          obtain ⟨⟨hstar, htrue⟩, hfalse⟩ := hplain
          rcases valueOf_eq_ok hvalue with (heq | heq) |
            ⟨hsame, heq | ⟨hcategory, hneTrue, hneFalse⟩⟩
          · exact absurd heq htrue
          · exact absurd heq hfalse
          · exact absurd heq hstar
          · refine ⟨hsame, ?_, hneTrue, hneFalse⟩
            rw [hsame, htoken.classify_eq, List.mem_singleton.mp hcategory]

/-- A value holds no foreign character that its token does not hold. -/
theorem freeOf_of_valueOf (hc : Foreign c) {categories : List Category} {token : Token}
    {found : String} (htoken : FreeOf c token.value)
    (h : valueOf categories token = .ok found) : FreeOf c found := by
  rcases valueOf_eq_ok h with (rfl | rfl) | ⟨rfl, _⟩
  · exact hc.freeOf_of_isName (by decide)
  · exact hc.freeOf_of_isName (by decide)
  · exact htoken

theorem satisfies_valueOf (hc : Foreign c) (categories : List Category) {token : Token}
    (htoken : FreeOf c token.value) :
    Satisfies (Fault.Avoids c) (FreeOf c) (valueOf categories token) := by
  cases hvalue : valueOf categories token with
  | ok found => exact .ok (freeOf_of_valueOf hc htoken hvalue)
  | error fault =>
      unfold valueOf at hvalue
      repeat' split at hvalue
      all_goals cases hvalue
      · exact .error (Fault.avoids_of_words_eq_singleton nofun rfl htoken)
      · exact .error (Fault.avoids_of_words_eq_singleton nofun rfl htoken)

theorem satisfies_nameOf (hc : Foreign c) {token : Token} (htoken : token.LexedFree c) :
    Satisfies (Fault.Avoids c) Token.IsNameWord (nameOf token) := by
  have hvalue := satisfies_valueOf hc [.identifier] htoken.freeOf
  cases hname : nameOf token with
  | ok found => exact .ok (isNameWord_of_nameOf htoken.lexed hname).2
  | error fault =>
      unfold nameOf at hname
      split at hname
      · next hfault =>
          cases hname
          exact .error (hvalue.of_eq_error hfault)
      · next found hfound =>
          split at hname
          · cases hname
            refine .error (Fault.avoids_of_words_eq_singleton nofun rfl ?_)
            exact hvalue.of_eq_ok hfound
          · cases hname

theorem yields_value (hc : Foreign c) (categories : List Category) :
    Yields c (value categories) (FreeOf c) :=
  yields_next_ofExcept fun _ htoken => satisfies_valueOf hc categories htoken.freeOf

theorem yields_name (hc : Foreign c) : Yields c name Token.IsNameWord :=
  yields_next_ofExcept fun _ htoken => satisfies_nameOf hc htoken

end Scan

end TextTables
