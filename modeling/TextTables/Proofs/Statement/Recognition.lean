import TextTables.Proofs.Statement.Grammar
import TextTables.Proofs.Statement.Plain

/-!
# Statements are read as the grammar spells them

A scan is described by what it reads: from which tokens it answers with what, and which
tokens it leaves.  Scans in a row read what their parts read in a row, so the description
of a routine is found by going through it, and it is compared with the grammar once.
Both directions are proved together: what is read is spelled, and what is spelled is read.
-/

namespace TextTables

namespace Scan

open Attempt Grammar
open Text (sameWord)

variable {α β : Type}

/-- From lexed tokens a scan answers with `a` and leaves `rest` exactly if `R` says so. -/
structure Reads (scan : Scan α) (R : List Token → α → List Token → Prop) : Prop where
  run_eq_ok_iff : ∀ {tokens a rest}, AllOf Token.Lexed tokens →
    (scan.run tokens = (.ok a, rest) ↔ R tokens a rest)
  subset : ∀ {tokens a rest}, R tokens a rest → rest ⊆ tokens

/-- The next token has this category and value. -/
def Ahead (category : Category) (value : String) (tokens : List Token) : Prop :=
  ∃ token more, tokens = token :: more ∧ token.is category value = true

/-! ## Putting scans together -/

theorem Reads.congr {scan : Scan α} {R S : List Token → α → List Token → Prop}
    (h : Reads scan R) (hRS : ∀ tokens a rest, R tokens a rest ↔ S tokens a rest) :
    Reads scan S where
  run_eq_ok_iff htokens := (h.run_eq_ok_iff htokens).trans (hRS _ _ _)
  subset hS := h.subset ((hRS _ _ _).mpr hS)

theorem reads_pure (a : α) : Reads (pure a) fun tokens b rest => b = a ∧ rest = tokens where
  run_eq_ok_iff := by
    intro tokens b rest _
    rw [run_pure, Prod.mk.injEq, Except.ok.injEq, eq_comm (a := a), eq_comm (a := tokens)]
  subset := by
    rintro tokens b rest ⟨_, rfl⟩
    exact List.Subset.refl _

theorem reads_ofExcept (answer : Except Fault α) :
    Reads (ofExcept answer) fun tokens a rest => answer = .ok a ∧ rest = tokens where
  run_eq_ok_iff := by
    intro tokens a rest _
    rw [run_ofExcept, Prod.mk.injEq, eq_comm (a := rest)]
  subset := by
    rintro tokens a rest ⟨_, rfl⟩
    exact List.Subset.refl _

theorem reads_fail (fault : Fault) : Reads (fail fault : Scan α) fun _ _ _ => False where
  run_eq_ok_iff := by simp
  subset := False.elim

theorem Reads.bind {first : Scan α} {next : α → Scan β} {R : List Token → α → List Token → Prop}
    {S : α → List Token → β → List Token → Prop} (hfirst : Reads first R)
    (hnext : ∀ a, Reads (next a) (S a)) :
    Reads (first >>= next) fun tokens b rest => ∃ a left, R tokens a left ∧ S a left b rest where
  run_eq_ok_iff := by
    intro tokens b rest htokens
    rw [run_bind_eq_ok]
    refine exists_congr fun a => exists_congr fun left => ?_
    rw [hfirst.run_eq_ok_iff htokens]
    refine and_congr_right fun hR => (hnext a).run_eq_ok_iff ?_
    exact fun token htoken => htokens token (hfirst.subset hR htoken)
  subset := by
    rintro tokens b rest ⟨a, left, hR, hS⟩
    exact List.Subset.trans ((hnext a).subset hS) (hfirst.subset hR)

theorem reads_ite {c : Prop} [Decidable c] {yes no : Scan α}
    {R S : List Token → α → List Token → Prop} (hyes : Reads yes R) (hno : Reads no S) :
    Reads (if c then yes else no) fun tokens a rest =>
      c ∧ R tokens a rest ∨ ¬c ∧ S tokens a rest := by
  by_cases hc : c
  · rw [if_pos hc]
    exact hyes.congr fun _ _ _ => by simp [hc]
  · rw [if_neg hc]
    exact hno.congr fun _ _ _ => by simp [hc]

theorem run_accept_of_is {category : Category} {value : String} {token : Token}
    (h : token.is category value = true) (more : List Token) :
    (accept category value).run (token :: more) = (.ok true, more) :=
  if_pos h

theorem run_accept_of_not_ahead {category : Category} {value : String} {tokens : List Token}
    (h : ¬Ahead category value tokens) :
    (accept category value).run tokens = (.ok false, tokens) := by
  cases tokens with
  | nil => rfl
  | cons token more => exact if_neg fun his => h ⟨token, more, rfl, his⟩

theorem not_ahead_cons_iff {category : Category} {value : String} {token : Token}
    {more : List Token} :
    ¬Ahead category value (token :: more) ↔ ¬token.is category value = true := by
  refine not_congr ⟨?_, fun his => ⟨token, more, rfl, his⟩⟩
  rintro ⟨_, _, heq, his⟩
  cases heq
  exact his

/-- A scan that goes on in one way or the other, as the next token is. -/
theorem reads_if_accept {category : Category} {value : String} {yes no : Scan α}
    {R S : List Token → α → List Token → Prop} (hyes : Reads yes R) (hno : Reads no S) :
    Reads (do if ← accept category value then yes else no) fun tokens a rest =>
      (∃ token more, tokens = token :: more ∧ token.is category value = true ∧ R more a rest) ∨
        ¬Ahead category value tokens ∧ S tokens a rest where
  run_eq_ok_iff := by
    intro tokens a rest htokens
    rw [run_bind]
    by_cases hahead : Ahead category value tokens
    · obtain ⟨token, more, rfl, his⟩ := hahead
      have hmore : AllOf Token.Lexed more := fun t ht => htokens t (List.mem_cons_of_mem _ ht)
      rw [run_accept_of_is his]
      refine (hyes.run_eq_ok_iff hmore).trans ⟨fun hR => Or.inl ⟨_, _, rfl, his, hR⟩, ?_⟩
      rintro (⟨_, _, heq, _, hR⟩ | ⟨hnot, _⟩)
      · cases heq
        exact hR
      · exact absurd ⟨token, more, rfl, his⟩ hnot
    · rw [run_accept_of_not_ahead hahead]
      refine (hno.run_eq_ok_iff htokens).trans ⟨fun hS => Or.inr ⟨hahead, hS⟩, ?_⟩
      rintro (⟨token, more, rfl, his, _⟩ | ⟨_, hS⟩)
      · exact absurd ⟨token, more, rfl, his⟩ hahead
      · exact hS
  subset := by
    rintro tokens a rest (⟨token, more, rfl, _, hR⟩ | ⟨_, hS⟩)
    · exact List.subset_cons_of_subset _ (hyes.subset hR)
    · exact hno.subset hS

/-! ## The scans of single tokens -/

/-- A scan that takes one token and looks at it. -/
theorem reads_next {f : Token → Except Fault α} {stands : Token → α → Prop}
    (h : ∀ token a, token.Lexed → (f token = .ok a ↔ stands token a)) :
    Reads (next >>= fun token => ofExcept (f token)) fun tokens a rest =>
      ∃ token, tokens = token :: rest ∧ stands token a where
  run_eq_ok_iff := by
    intro tokens a rest htokens
    cases tokens with
    | nil =>
        refine ⟨fun hrun => ?_, ?_⟩
        · cases hrun
        · rintro ⟨_, heq, _⟩
          cases heq
    | cons token more =>
        have hrun : (next >>= fun token => ofExcept (f token)).run (token :: more) =
            (f token, more) := rfl
        rw [hrun, Prod.mk.injEq, h token a (htokens token List.mem_cons_self)]
        refine ⟨?_, ?_⟩
        · rintro ⟨hstands, rfl⟩
          exact ⟨token, rfl, hstands⟩
        · rintro ⟨_, heq, hstands⟩
          cases heq
          exact ⟨hstands, rfl⟩
  subset := by
    rintro tokens a rest ⟨token, rfl, _⟩
    exact List.subset_cons_self _ _

theorem reads_keyword (word : String) :
    Reads (keyword word) fun tokens _ rest =>
      ∃ token, tokens = token :: rest ∧ Word word token := by
  refine (reads_if_accept (reads_pure ()) (reads_fail _)).congr fun tokens a rest => ⟨?_, ?_⟩
  · rintro (⟨token, more, rfl, hword, _, rfl⟩ | ⟨_, hfalse⟩)
    · exact ⟨token, rfl, hword⟩
    · exact hfalse.elim
  · rintro ⟨token, rfl, hword⟩
    exact Or.inl ⟨token, rest, rfl, hword, rfl, rfl⟩

theorem markOf_eq_ok_iff {category : Category} {text : String} {token : Token} {a : Unit} :
    markOf category text token = .ok a ↔ token.is category text = true := by
  unfold markOf Token.is
  by_cases hcategory : token.category = category
  · by_cases hvalue : sameWord token.value text = true
    · simp [hcategory, hvalue]
    · simp [hcategory, hvalue]
  · simp [hcategory]

theorem reads_mark (category : Category) (text : String) :
    Reads (mark category text) fun tokens _ rest =>
      ∃ token, tokens = token :: rest ∧ token.is category text = true :=
  reads_next fun _ _ _ => markOf_eq_ok_iff

theorem reads_finish :
    Reads finish fun tokens _ rest => ∃ last, tokens = [last] ∧ rest = [] ∧ Mark ";" last := by
  have hnothing : Reads nothingLeft fun tokens _ rest => tokens = [] ∧ rest = [] := by
    refine ⟨fun {tokens a rest} _ => ?_, ?_⟩
    · cases tokens with
      | nil => simp [nothingLeft, Attempt.run, eq_comm]
      | cons token more => simp [nothingLeft, Attempt.run]
    · rintro tokens a rest ⟨_, rfl⟩
      exact List.nil_subset _
  refine (reads_if_accept hnothing (reads_fail _)).congr fun tokens a rest => ⟨?_, ?_⟩
  · rintro (⟨last, more, rfl, hlast, rfl, rfl⟩ | ⟨_, hfalse⟩)
    · exact ⟨last, rfl, rfl, hlast⟩
    · exact hfalse.elim
  · rintro ⟨last, rfl, rfl, hlast⟩
    exact Or.inl ⟨last, [], rfl, hlast, rfl, rfl⟩

/-! ## Names and values -/

theorem nameOf_eq_ok_iff {token : Token} {name : String} (htoken : token.Lexed) :
    nameOf token = .ok name ↔ token.Names name := by
  refine ⟨fun h => ?_, fun h => ?_⟩
  · obtain ⟨rfl, hname⟩ := isNameWord_of_nameOf htoken h
    have hcategory : Except.ok token.category = Except.ok Category.identifier :=
      htoken.classify_eq.symm.trans hname.classify_eq
    refine ⟨Except.ok.inj hcategory, ?_, rfl⟩
    rintro (htrue | hfalse)
    · exact absurd htrue (Bool.eq_false_iff.mp hname.ne_true)
    · exact absurd hfalse (Bool.eq_false_iff.mp hname.ne_false)
  · obtain ⟨category, value⟩ := token
    obtain ⟨hcategory, htruth, rfl⟩ := h
    cases hcategory
    refine nameOf_of_isNameWord ⟨htoken.classify_eq, ?_, ?_⟩
    · exact Bool.eq_false_iff.mpr fun htrue => htruth (Or.inl htrue)
    · exact Bool.eq_false_iff.mpr fun hfalse => htruth (Or.inr hfalse)

theorem reads_name :
    Reads name fun tokens a rest => ∃ token, tokens = token :: rest ∧ token.Names a :=
  reads_next fun _ _ htoken => nameOf_eq_ok_iff htoken

/-- The words `TRUE` and `FALSE` are identifiers like any other. -/
theorem category_eq_of_isTruth {token : Token} (htoken : token.Lexed) (h : token.IsTruth) :
    token.category = .identifier := by
  have hletters : ∀ other ∈ ["TRUE", "FALSE"], Token.IsLetters other := by
    intro other hother
    simp only [List.mem_cons, List.not_mem_nil, or_false] at hother
    rcases hother with rfl | rfl
    · exact ⟨by decide, List.all_eq_true.mp (by decide)⟩
    · exact ⟨by decide, List.all_eq_true.mp (by decide)⟩
  have hclassify : Token.classify token.value = .ok .identifier := by
    rcases h with htrue | hfalse
    · exact (hletters "TRUE" (by decide)).classify_of_sameWord htrue (by decide) (by decide)
    · exact (hletters "FALSE" (by decide)).classify_of_sameWord hfalse (by decide) (by decide)
  exact Except.ok.inj (htoken.classify_eq.symm.trans hclassify)

theorem category_eq_of_star {token : Token} (htoken : token.Lexed) (h : token.value = "*") :
    token.category = .symbol := by
  have hclassify := htoken.classify_eq
  rw [h] at hclassify
  exact (Except.ok.inj hclassify).symm

/-- A value is a token of one of the categories as it is written, the mark `*`, or one of
the words `TRUE` and `FALSE` in capitals. -/
theorem valueOf_eq_ok_iff {token : Token} {value : String} (htoken : token.Lexed) :
    valueOf [.string, .number, .identifier] token = .ok value ↔ token.Gives value := by
  unfold valueOf
  by_cases hstar : token.value = "*"
  · have hcategory := category_eq_of_star htoken hstar
    rw [hstar, if_pos (beq_self_eq_true _), Except.ok.injEq]
    refine ⟨?_, ?_⟩
    · rintro rfl
      exact .star hcategory hstar
    · rintro (_ | ⟨hidentifier, _⟩ | ⟨hmem, _⟩)
      · rfl
      · exact absurd (hcategory.symm.trans hidentifier) (by decide)
      · exact hstar.symm
  rw [if_neg (by simpa using hstar)]
  by_cases htruth : token.IsTruth
  · rw [if_pos (Bool.or_eq_true _ _ ▸ htruth), Except.ok.injEq]
    refine ⟨?_, ?_⟩
    · rintro rfl
      exact .truth (category_eq_of_isTruth htoken htruth) htruth
    · rintro (⟨_, heq⟩ | _ | ⟨_, hnot⟩)
      · exact absurd heq hstar
      · rfl
      · exact absurd htruth hnot
  rw [if_neg (Bool.or_eq_true _ _ ▸ htruth)]
  by_cases hcategory : token.category ∈ [.string, .number, .identifier]
  · have hname : (token.category == .identifier && !Token.isName token.value) = false := by
      by_cases hidentifier : token.category = .identifier
      · rw [Token.isName_of_classify (hidentifier ▸ htoken.classify_eq), Bool.not_true,
          Bool.and_false]
      · rw [beq_false_of_ne hidentifier, Bool.false_and]
    rw [List.contains_iff_mem.mpr hcategory, Bool.not_true, if_neg Bool.false_ne_true, hname,
      if_neg Bool.false_ne_true, Except.ok.injEq]
    refine ⟨?_, ?_⟩
    · rintro rfl
      exact .plain hcategory htruth
    · rintro (⟨_, heq⟩ | ⟨_, htrue⟩ | _)
      · exact absurd heq hstar
      · exact absurd htrue htruth
      · rfl
  · rw [if_pos (by simpa using hcategory)]
    refine ⟨nofun, ?_⟩
    rintro (⟨_, heq⟩ | ⟨_, htrue⟩ | ⟨hmem, _⟩)
    · exact absurd heq hstar
    · exact absurd htrue htruth
    · exact absurd hmem hcategory

theorem reads_item :
    Reads item fun tokens a rest => ∃ token, tokens = token :: rest ∧ token.Gives a :=
  reads_next fun _ _ htoken => valueOf_eq_ok_iff htoken

/-! ## Lists -/

/-- Each entry suits those before it, the last one first. -/
def Suit (suits : List α → α → Prop) : List α → List α → Prop
  | _, [] => True
  | before, a :: more => suits before a ∧ Suit suits (a :: before) more

theorem run_listUpTo_eq_ok_iff {entry : List α → Scan α} {phrase : List Token → α → Prop}
    {suits : List α → α → Prop}
    (hentry : ∀ before, Reads (entry before) fun tokens a rest =>
      ∃ used, tokens = used ++ rest ∧ phrase used a ∧ suits before a)
    {bound : Nat} {before found : List α} {tokens rest : List Token}
    (htokens : AllOf Token.Lexed tokens) (hbound : tokens.length < bound) :
    (listUpTo entry bound before).run tokens = (.ok found, rest) ↔
      ∃ used entries, tokens = used ++ rest ∧ Listed phrase used entries ∧
        Suit suits before entries ∧ ¬Ahead .symbol "," rest ∧
        found = before.reverse ++ entries := by
  induction bound generalizing before tokens with
  | zero => cases hbound
  | succ bound ih =>
      have hsub : ∀ {used left : List Token}, tokens = used ++ left →
          AllOf Token.Lexed left := by
        rintro used left rfl token htoken
        exact htokens token (List.mem_append_right _ htoken)
      have hmore : ∀ {used more : List Token} {comma : Token}, tokens = used ++ comma :: more →
          AllOf Token.Lexed more ∧ more.length < bound := by
        intro used more comma heq
        refine ⟨fun token htoken => hsub heq token (List.mem_cons_of_mem _ htoken), ?_⟩
        rw [heq, List.length_append, List.length_cons] at hbound
        omega
      rw [listUpTo, run_bind_eq_ok]
      refine ⟨?_, ?_⟩
      · rintro ⟨a, left, hfirst, hleft⟩
        obtain ⟨used, heq, hphrase, hsuits⟩ := ((hentry before).run_eq_ok_iff htokens).mp hfirst
        rw [run_bind] at hleft
        by_cases hcomma : Ahead .symbol "," left
        · obtain ⟨comma, more, rfl, his⟩ := hcomma
          obtain ⟨hlexed, hlength⟩ := hmore heq
          rw [run_accept_of_is his] at hleft
          obtain ⟨others, entries, rfl, hlisted, hsuit, hstop, rfl⟩ := (ih hlexed hlength).mp hleft
          refine ⟨used ++ comma :: others, a :: entries, ?_, .more hphrase his hlisted,
            ⟨hsuits, hsuit⟩, hstop, ?_⟩
          · rw [heq, List.append_assoc, List.cons_append]
          · rw [List.reverse_cons, List.append_assoc, List.singleton_append]
        · rw [run_accept_of_not_ahead hcomma] at hleft
          cases hleft
          refine ⟨used, [a], heq, .last hphrase, ⟨hsuits, trivial⟩, hcomma, ?_⟩
          rw [List.reverse_cons]
      · rintro ⟨used, entries, heq, hlisted, hsuit, hstop, rfl⟩
        cases hlisted with
        | last hphrase =>
            refine ⟨_, rest, ((hentry before).run_eq_ok_iff htokens).mpr
              ⟨used, heq, hphrase, hsuit.1⟩, ?_⟩
            rw [run_bind, run_accept_of_not_ahead hstop]
            exact congrArg (fun found => (Except.ok found, rest)) (List.reverse_cons ..)
        | @more first others comma a entries hphrase his hrest =>
            rw [List.append_assoc, List.cons_append] at heq
            obtain ⟨hlexed, hlength⟩ := hmore heq
            refine ⟨a, comma :: (others ++ rest), ((hentry before).run_eq_ok_iff htokens).mpr
              ⟨first, heq, hphrase, hsuit.1⟩, ?_⟩
            rw [run_bind, run_accept_of_is his]
            refine (ih hlexed hlength).mpr ⟨others, entries, rfl, hrest, hsuit.2, hstop, ?_⟩
            rw [List.reverse_cons, List.append_assoc, List.singleton_append]

/-- A list is read up to the first entry that no comma follows. -/
theorem reads_list {entry : List α → Scan α} {phrase : List Token → α → Prop}
    {suits : List α → α → Prop}
    (hentry : ∀ before, Reads (entry before) fun tokens a rest =>
      ∃ used, tokens = used ++ rest ∧ phrase used a ∧ suits before a) :
    Reads (list entry) fun tokens entries rest =>
      ∃ used, tokens = used ++ rest ∧ Listed phrase used entries ∧ Suit suits [] entries ∧
        ¬Ahead .symbol "," rest where
  run_eq_ok_iff := by
    intro tokens found rest htokens
    refine (run_listUpTo_eq_ok_iff hentry htokens (Nat.lt_succ_self _)).trans ⟨?_, ?_⟩
    · rintro ⟨used, entries, heq, hlisted, hsuit, hstop, rfl⟩
      exact ⟨used, heq, hlisted, hsuit, hstop⟩
    · rintro ⟨used, heq, hlisted, hsuit, hstop⟩
      exact ⟨used, found, heq, hlisted, hsuit, hstop, rfl⟩
  subset := by
    rintro tokens entries rest ⟨used, rfl, _⟩
    exact List.subset_append_right _ _

/-! ## Conditions -/

theorem not_is_of_is {token : Token} {category other : Category} {value text : String}
    (h : token.is category value = true)
    (hne : category ≠ other ∨ sameWord value text = false) : token.is other text = false := by
  simp only [Token.is, Bool.and_eq_true, beq_iff_eq] at h
  rw [Token.is, h.1, Text.sameWord_congr h.2]
  rcases hne with hcategory | hvalue
  · rw [beq_false_of_ne hcategory, Bool.false_and]
  · rw [hvalue, Bool.and_false]

theorem not_ahead_of_is {token : Token} {more : List Token} {category other : Category}
    {value text : String} (h : token.is category value = true)
    (hne : category ≠ other ∨ sameWord value text = false) : ¬Ahead other text (token :: more) :=
  not_ahead_cons_iff.mpr (Bool.eq_false_iff.mp (not_is_of_is h hne))

end Scan

namespace Grammar

open Scan

theorem marks_cons (mark : String) (token : Token) (tokens : List Token) :
    marks mark (token :: tokens) =
      marks mark tokens + if token.is .symbol mark = true then 1 else 0 :=
  List.countP_cons

theorem balanced_nil_iff {depth : Nat} : Balanced depth [] ↔ depth = 0 := by
  refine ⟨fun h => h.closed.symm, ?_⟩
  rintro rfl
  refine ⟨fun before hbefore => ?_, rfl⟩
  rw [List.prefix_nil.mp hbefore]
  exact Nat.le_refl _

/-- What a token does to the number of open parentheses, it does to balance. -/
theorem balanced_cons_iff {depth : Nat} {token : Token} {tokens : List Token} {inner : Nat}
    (h : inner + (if token.is .symbol ")" = true then 1 else 0) =
      depth + if token.is .symbol "(" = true then 1 else 0) :
    Balanced depth (token :: tokens) ↔ Balanced inner tokens := by
  refine ⟨fun hbalanced => ⟨fun before hbefore => ?_, ?_⟩,
    fun hbalanced => ⟨fun before hbefore => ?_, ?_⟩⟩
  · have hle := hbalanced.opened (token :: before) (List.cons_prefix_cons.mpr ⟨rfl, hbefore⟩)
    rw [marks_cons, marks_cons] at hle
    omega
  · have heq := hbalanced.closed
    rw [marks_cons, marks_cons] at heq
    omega
  · rcases List.prefix_cons_iff.mp hbefore with rfl | ⟨more, rfl, hmore⟩
    · exact Nat.zero_le _
    · have hle := hbalanced.opened more hmore
      rw [marks_cons, marks_cons]
      omega
  · have heq := hbalanced.closed
    rw [marks_cons, marks_cons]
    omega

theorem not_balanced_zero_cons {token : Token} {tokens : List Token}
    (hclose : token.is .symbol ")" = true) (hopen : token.is .symbol "(" = false) :
    ¬Balanced 0 (token :: tokens) := by
  intro h
  have hle := h.opened [token] (List.cons_prefix_cons.mpr ⟨rfl, List.nil_prefix⟩)
  rw [marks_cons, marks_cons, hclose, hopen] at hle
  cases hle

end Grammar

namespace Scan

open Attempt Grammar
open Text (sameWord)

/-- These are the tokens of a clause, and these come behind it. -/
structure IsClause (depth : Nat) (used rest : List Token) : Prop where
  plain : Plain used
  balanced : Balanced depth used
  stops : rest = [] ∨ Ahead .symbol ";" rest

theorem isClause_nil_iff {depth : Nat} {rest : List Token}
    (h : rest = [] ∨ Ahead .symbol ";" rest) : IsClause depth [] rest ↔ depth = 0 :=
  ⟨fun hclause => balanced_nil_iff.mp hclause.balanced,
    fun hdepth => ⟨List.forall_mem_nil _, balanced_nil_iff.mpr hdepth, h⟩⟩

/-- A token that is not a semicolon belongs to the clause that it stands in front of. -/
theorem isClause_cons_iff {depth inner : Nat} {token : Token} {more used rest : List Token}
    (hplain : ¬Mark ";" token)
    (hbalanced : ∀ inside, Balanced depth (token :: inside) ↔ Balanced inner inside) :
    (token :: more = used ++ rest ∧ IsClause depth used rest) ↔
      ∃ inside, used = token :: inside ∧ more = inside ++ rest ∧ IsClause inner inside rest := by
  refine ⟨?_, ?_⟩
  · rintro ⟨heq, hclause⟩
    cases used with
    | nil =>
        rcases hclause.stops with hnil | ⟨_, _, hrest, hmark⟩
        · rw [hnil] at heq
          cases heq
        · cases heq.trans hrest
          exact absurd hmark hplain
    | cons first inside =>
        cases heq
        refine ⟨inside, rfl, rfl, ?_, (hbalanced inside).mp hclause.balanced, hclause.stops⟩
        exact fun other hother => hclause.plain other (List.mem_cons_of_mem _ hother)
  · rintro ⟨inside, rfl, rfl, hclause⟩
    refine ⟨rfl, ?_, (hbalanced inside).mpr hclause.balanced, hclause.stops⟩
    intro other hother
    rcases List.mem_cons.mp hother with rfl | hother
    · exact hplain
    · exact hclause.plain other hother

/-- A token is put in front of the clause that the tokens behind it begin with. -/
theorem map_cons_eq_ok_iff {depth inner : Nat} {token : Token} {more left used rest : List Token}
    {inside : Except Fault (List Token)} (hinner : clauseTokens inner more = (inside, left))
    (ih : ∀ {used}, clauseTokens inner more = (.ok used, rest) ↔
      more = used ++ rest ∧ IsClause inner used rest)
    (hplain : ¬Mark ";" token)
    (hdepth : inner + (if token.is .symbol ")" = true then 1 else 0) =
      depth + if token.is .symbol "(" = true then 1 else 0) :
    (inside.map (token :: ·), left) = (.ok used, rest) ↔
      token :: more = used ++ rest ∧ IsClause depth used rest := by
  rw [isClause_cons_iff hplain fun _ => balanced_cons_iff hdepth]
  rw [hinner] at ih
  cases inside with
  | error fault =>
      refine ⟨nofun, ?_⟩
      rintro ⟨used, _, hclause⟩
      exact nomatch ih.mpr hclause
  | ok taken =>
      refine ⟨fun h => ?_, ?_⟩
      · cases h
        exact ⟨taken, rfl, ih.mp rfl⟩
      · rintro ⟨used, rfl, hclause⟩
        cases ih.mpr hclause
        rfl

/-- The tokens of a clause are those up to the first semicolon, if they are balanced. -/
theorem clauseTokens_eq_ok_iff {depth : Nat} {tokens used rest : List Token} :
    clauseTokens depth tokens = (.ok used, rest) ↔
      tokens = used ++ rest ∧ IsClause depth used rest := by
  have hend : ∀ {depth : Nat} {tokens used : List Token},
      (tokens = [] ∨ Ahead .symbol ";" tokens) →
      (((if depth == 0 then .ok [] else .error .unclosedParenthesis, tokens) :
          Except Fault (List Token) × List Token) = (.ok used, rest) ↔
        tokens = used ++ rest ∧ IsClause depth used rest) := by
    intro depth tokens used hstop
    have hnil : tokens = used ++ rest ∧ IsClause depth used rest →
        used = [] ∧ tokens = rest ∧ depth = 0 := by
      rintro ⟨rfl, hclause⟩
      cases used with
      | nil => exact ⟨rfl, rfl, (isClause_nil_iff hclause.stops).mp hclause⟩
      | cons first more =>
          obtain hnil | ⟨_, _, heq, hmark⟩ := hstop
          · cases hnil
          · cases heq
            exact absurd hmark (hclause.plain first List.mem_cons_self)
    refine ⟨fun h => ?_, fun h => ?_⟩
    · split at h
      · next hdepth =>
          cases h
          exact ⟨rfl, (isClause_nil_iff hstop).mpr (beq_iff_eq.mp hdepth)⟩
      · cases h
    · obtain ⟨rfl, rfl, rfl⟩ := hnil h
      rfl
  fun_induction clauseTokens depth tokens generalizing used with
  | case1 => exact hend (Or.inl rfl)
  | case2 depth token more hsemicolon => exact hend (Or.inr ⟨token, more, rfl, hsemicolon⟩)
  | case3 depth token more hsemicolon hopen inside left hinner ih =>
      have hclose : token.is .symbol ")" = false := not_is_of_is hopen (Or.inr (by decide))
      exact map_cons_eq_ok_iff hinner ih hsemicolon (by simp [hopen, hclose])
  | case4 token more hsemicolon hopen hclose =>
      refine ⟨nofun, ?_⟩
      rintro ⟨heq, hclause⟩
      cases used with
      | nil =>
          obtain rfl | ⟨_, _, rfl, hmark⟩ := hclause.stops
          · cases heq
          · cases heq
            exact absurd hmark hsemicolon
      | cons first inside =>
          cases heq
          exact absurd hclause.balanced
            (not_balanced_zero_cons hclose (Bool.eq_false_iff.mpr hopen))
  | case5 token more hsemicolon hopen hclose depth inside left hinner ih =>
      exact map_cons_eq_ok_iff hinner ih hsemicolon (by simp [hopen, hclose])
  | case6 depth token more hsemicolon hopen hclose inside left hinner ih =>
      exact map_cons_eq_ok_iff hinner ih hsemicolon (by simp [hopen, hclose])

theorem clauseOf_eq_ok_iff {tokens : List Token} {found : Option Condition} :
    clauseOf tokens = .ok found ↔
      tokens = [] ∧ found = none ∨
        ∃ condition, found = some condition ∧ Condition.ofTokens tokens = .ok condition := by
  cases tokens with
  | nil =>
      have hnone : Condition.ofTokens [] = .error .incompleteCondition := rfl
      simp [clauseOf, hnone, eq_comm]
  | cons token more =>
      have hof : clauseOf (token :: more) = (Condition.ofTokens (token :: more)).map some := rfl
      rw [hof]
      cases Condition.ofTokens (token :: more) with
      | error fault => simp [Except.map]
      | ok condition => simp [Except.map, eq_comm]

/-- A condition ends before a semicolon; where there is none, no `WHERE` is ahead. -/
theorem reads_condition :
    Reads condition fun tokens found rest =>
      ∃ used, tokens = used ++ rest ∧ Clause used found ∧
        if used = [] then ¬Ahead .keyword "WHERE" rest
        else rest = [] ∨ Ahead .symbol ";" rest := by
  have hclause : Reads (clauseTokens 0) fun tokens used rest =>
      tokens = used ++ rest ∧ IsClause 0 used rest := by
    refine ⟨fun _ => clauseTokens_eq_ok_iff, ?_⟩
    rintro tokens used rest ⟨rfl, _⟩
    exact List.subset_append_right _ _
  refine (reads_if_accept (hclause.bind fun used => reads_ofExcept (clauseOf used))
    (reads_pure none)).congr
    fun tokens found rest => ⟨?_, ?_⟩
  · rintro (⟨first, _, rfl, hfirst, used, _, ⟨rfl, hclause⟩, hof, rfl⟩ | ⟨hnot, rfl, rfl⟩)
    · refine ⟨first :: used, rfl, ?_, ?_⟩
      · rcases clauseOf_eq_ok_iff.mp hof with ⟨rfl, rfl⟩ | ⟨condition, rfl, hcondition⟩
        · exact .empty hfirst
        · exact .given hfirst hclause.plain hclause.balanced hcondition
      · rw [if_neg (List.cons_ne_nil _ _)]
        exact hclause.stops
    · exact ⟨[], rfl, .absent, hnot⟩
  · rintro ⟨used, rfl, hclause, hstop⟩
    cases hclause with
    | absent => exact Or.inr ⟨hstop, rfl, rfl⟩
    | empty hfirst =>
        exact Or.inl ⟨_, rest, rfl, hfirst, [], rest,
          ⟨rfl, (isClause_nil_iff hstop).mpr rfl⟩, rfl, rfl⟩
    | given hfirst hplain hbalanced hcondition =>
        exact Or.inl ⟨_, _, rfl, hfirst, _, rest, ⟨rfl, hplain, hbalanced, hstop⟩,
          clauseOf_eq_ok_iff.mpr (Or.inr ⟨_, rfl, hcondition⟩), rfl⟩

end Scan

end TextTables
