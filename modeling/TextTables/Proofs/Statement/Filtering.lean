import TextTables.Proofs.Condition.Tests
import TextTables.Proofs.Statement.Spelling

/-!
# Where the condition of a statement stands

Queries, updates and removals can have a condition.  It is the whole of what stands between
the first `WHERE` among the tokens and the semicolon at the end, because before the clause
stand a few words of the language other than `WHERE`, and names, values and marks.
-/

namespace TextTables

/-- The condition of a statement of a form that can have one. -/
def Statement.filter? : Statement → Option (Option Condition)
  | .select _ _ condition | .update _ _ condition | .delete _ condition => some condition
  | .use _ | .createDatabase _ | .createTable _ _ | .insert _ _ | .alter _ _ _ | .dropTable _
  | .dropDatabase _ | .join _ _ _ _ => none

namespace Grammar

open Statement (Form)

/-- No word of the language is among the tokens. -/
def Wordless (tokens : List Token) : Prop :=
  ∀ token ∈ tokens, token.category ≠ .keyword

/-- These tokens stand between the first `WHERE` and the semicolon at the end. -/
def IsWhere (tokens clause : List Token) : Prop :=
  ∃ before word last, tokens = before ++ word :: (clause ++ [last]) ∧
    (∀ token ∈ before, ¬Word "WHERE" token) ∧ Word "WHERE" word ∧ Plain clause ∧ Mark ";" last

theorem not_keyword_of_mark {mark : String} {token : Token} (h : Mark mark token) :
    token.category ≠ .keyword := by
  rw [category_of_is h]
  decide

theorem not_keyword_of_names {name : String} {token : Token} (h : token.Names name) :
    token.category ≠ .keyword := by
  rw [h.category_eq]
  decide

theorem not_keyword_of_gives {value : String} {token : Token} (h : token.Gives value) :
    token.category ≠ .keyword := by
  cases h with
  | star hcategory | truth hcategory =>
      rw [hcategory]
      decide
  | plain hcategory =>
      intro hkeyword
      rw [hkeyword] at hcategory
      exact absurd hcategory (by decide)

theorem wordless_of_names {tokens : List Token} {names : List String}
    (h : Listed (Single Token.Names) tokens names) : Wordless tokens := by
  refine h.forall_mem ?_ not_keyword_of_mark
  rintro _ name ⟨token, rfl, hname⟩
  exact List.forall_mem_singleton.mpr (not_keyword_of_names hname)

theorem Selected.wordless {tokens : List Token} {columns : Selection}
    (h : Selected tokens columns) : Wordless tokens := by
  cases h with
  | all hstar => exact List.forall_mem_singleton.mpr (not_keyword_of_mark hstar)
  | columns hnames => exact wordless_of_names hnames

theorem Assigned.wordless {tokens : List Token} {assignment : String × String}
    (h : Assigned tokens assignment) : Wordless tokens := by
  obtain ⟨hname, _, hsign, hvalue⟩ := h
  refine List.forall_mem_cons.mpr ⟨not_keyword_of_names hname, ?_⟩
  refine List.forall_mem_cons.mpr ⟨not_keyword_of_mark hsign, ?_⟩
  exact List.forall_mem_singleton.mpr (not_keyword_of_gives hvalue)

theorem Wordless.not_word {tokens : List Token} (h : Wordless tokens) (word : String) :
    ∀ token ∈ tokens, ¬Word word token :=
  fun token htoken hword => h token htoken (category_of_is hword)

theorem Word.not_where {word : String} {token : Token} (h : Word word token)
    (hne : Text.sameWord word "WHERE" = false) : ¬Word "WHERE" token :=
  Bool.eq_false_iff.mp (Scan.not_is_of_is h (Or.inr hne))

theorem not_where_of_names {name : String} {token : Token} (h : token.Names name) :
    ¬Word "WHERE" token :=
  fun hword => not_keyword_of_names h (category_of_is hword)

/-- A statement that can have a condition ends with its clause and a semicolon, and `WHERE`
does not stand before the clause. -/
theorem Spells.exists_clause {form : Form} {tokens : List Token} {statement : Statement}
    {found : Option Condition} (h : Spells form tokens statement)
    (hfilter : statement.filter? = some found) :
    ∃ before clause last, tokens = before ++ (clause ++ [last]) ∧
      (∀ token ∈ before, ¬Word "WHERE" token) ∧ Clause clause found ∧ Mark ";" last := by
  cases h with
  | @select t₁ t₂ t₃ last columns clause _ _ _ h₁ hcolumns h₂ h₃ hclause hlast =>
      cases hfilter
      refine ⟨t₁ :: (columns ++ [t₂, t₃]), clause, last, by simp, ?_, hclause, hlast⟩
      refine List.forall_mem_cons.mpr ⟨h₁.not_where (by decide), ?_⟩
      refine List.forall_mem_append.mpr ⟨hcolumns.wordless.not_word _, ?_⟩
      refine List.forall_mem_cons.mpr ⟨h₂.not_where (by decide), ?_⟩
      exact List.forall_mem_singleton.mpr (not_where_of_names h₃)
  | @update t₁ t₂ t₃ last assignments clause _ _ _ h₁ h₂ h₃ hassignments hclause hlast =>
      cases hfilter
      have hwordless : Wordless assignments :=
        hassignments.forall_mem Assigned.wordless not_keyword_of_mark
      refine ⟨t₁ :: t₂ :: t₃ :: assignments, clause, last, rfl, ?_, hclause, hlast⟩
      refine List.forall_mem_cons.mpr ⟨h₁.not_where (by decide), ?_⟩
      refine List.forall_mem_cons.mpr ⟨not_where_of_names h₂, ?_⟩
      exact List.forall_mem_cons.mpr ⟨h₃.not_where (by decide), hwordless.not_word _⟩
  | @delete t₁ t₂ t₃ last clause _ _ h₁ h₂ h₃ hclause hlast =>
      cases hfilter
      refine ⟨[t₁, t₂, t₃], clause, last, rfl, ?_, hclause, hlast⟩
      refine List.forall_mem_cons.mpr ⟨h₁.not_where (by decide), ?_⟩
      refine List.forall_mem_cons.mpr ⟨h₂.not_where (by decide), ?_⟩
      exact List.forall_mem_singleton.mpr (not_where_of_names h₃)
  | _ => cases hfilter

/-- Behind `WHERE` a condition is written, or nothing. -/
theorem Spells.exists_isWhere {form : Form} {tokens : List Token} {statement : Statement}
    {found : Option Condition} (h : Spells form tokens statement)
    (hfilter : statement.filter? = some found) (hwhere : ∃ token ∈ tokens, Word "WHERE" token) :
    ∃ clause, IsWhere tokens clause ∧
      (clause = [] ∧ found = none ∨
        ∃ condition, found = some condition ∧ Condition.Spelled .disjunction clause condition) := by
  obtain ⟨before, clause, last, rfl, hbefore, hclause, hlast⟩ := h.exists_clause hfilter
  cases hclause with
  | absent =>
      obtain ⟨token, htoken, hword⟩ := hwhere
      rcases List.mem_append.mp htoken with hmem | hmem
      · exact absurd hword (hbefore token hmem)
      · rw [List.nil_append, List.mem_singleton] at hmem
        subst hmem
        exact absurd (category_of_is hword) (not_keyword_of_mark hlast)
  | empty hfirst =>
      exact ⟨[], ⟨before, _, last, rfl, hbefore, hfirst, plain_nil, hlast⟩, Or.inl ⟨rfl, rfl⟩⟩
  | given hfirst hplain _ hcondition =>
      refine ⟨_, ⟨before, _, last, rfl, hbefore, hfirst, hplain, hlast⟩, Or.inr ⟨_, rfl, ?_⟩⟩
      exact Condition.ofTokens_eq_ok_iff.mp hcondition

end Grammar

end TextTables
