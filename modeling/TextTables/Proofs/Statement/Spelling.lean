import TextTables.Proofs.Statement.Recognition

/-!
# Accepted are the statements of the grammar

Each routine reads exactly the tokens that spell a statement of its form, and the first
tokens of a statement tell its form.  So a list of tokens is accepted if and only if it
spells a statement, and that statement is the answer.
-/

namespace TextTables

namespace Grammar

open Scan (not_is_of_is)

variable {α : Type}

/-! ## The semicolon at the end -/

theorem Plain.append {left right : List Token} (hleft : Plain left) (hright : Plain right) :
    Plain (left ++ right) := by
  intro token htoken
  rcases List.mem_append.mp htoken with hmem | hmem
  · exact hleft token hmem
  · exact hright token hmem

theorem plain_nil : Plain [] :=
  List.forall_mem_nil _

theorem Plain.cons {token : Token} {tokens : List Token} (htokens : Plain tokens)
    (htoken : ¬Mark ";" token) : Plain (token :: tokens) :=
  List.forall_mem_cons.mpr ⟨htoken, htokens⟩

theorem Word.not_mark {word : String} {token : Token} (h : Word word token) :
    ¬Mark ";" token :=
  Bool.eq_false_iff.mp (not_is_of_is h (Or.inl (by decide)))

theorem AndWord.not_mark {token : Token} (h : AndWord token) : ¬Mark ";" token :=
  Bool.eq_false_iff.mp (not_is_of_is h (Or.inl (by decide)))

theorem not_mark_of_mark {mark : String} {token : Token} (h : Mark mark token)
    (hne : Text.sameWord mark ";" = false) : ¬Mark ";" token :=
  Bool.eq_false_iff.mp (not_is_of_is h (Or.inr hne))

theorem category_of_is {token : Token} {category : Category} {value : String}
    (h : token.is category value = true) : token.category = category := by
  rw [Token.is, Bool.and_eq_true, beq_iff_eq] at h
  exact h.1

theorem not_mark_of_category_ne {mark : String} {token : Token} (h : token.category ≠ .symbol) :
    ¬Mark mark token :=
  fun hmark => h (category_of_is hmark)

theorem not_mark_of_names {mark name : String} {token : Token} (h : token.Names name) :
    ¬Mark mark token := by
  refine not_mark_of_category_ne ?_
  rw [h.category_eq]
  decide

theorem not_mark_of_gives {value : String} {token : Token} (h : token.Gives value) :
    ¬Mark ";" token := by
  cases h with
  | star hcategory hstar =>
      rw [Mark, Token.is, hstar]
      simp [Text.sameWord, Text.folded]
  | truth hcategory =>
      refine not_mark_of_category_ne ?_
      rw [hcategory]
      decide
  | plain hcategory =>
      refine not_mark_of_category_ne fun hsymbol => ?_
      rw [hsymbol] at hcategory
      exact absurd hcategory (by decide)

/-- What holds of the tokens of each entry and of commas, holds of the tokens of a list. -/
theorem Listed.forall_mem {P : Token → Prop} {phrase : List Token → α → Prop}
    {tokens : List Token} {entries : List α} (h : Listed phrase tokens entries)
    (hphrase : ∀ {used a}, phrase used a → ∀ token ∈ used, P token)
    (hcomma : ∀ {token}, Mark "," token → P token) : ∀ token ∈ tokens, P token := by
  induction h with
  | last hlast => exact hphrase hlast
  | more hfirst hmark _ ih =>
      exact List.forall_mem_append.mpr
        ⟨hphrase hfirst, List.forall_mem_cons.mpr ⟨hcomma hmark, ih⟩⟩

theorem Listed.plain {phrase : List Token → α → Prop} {tokens : List Token} {entries : List α}
    (h : Listed phrase tokens entries) (hphrase : ∀ {used a}, phrase used a → Plain used) :
    Plain tokens :=
  h.forall_mem hphrase fun hcomma => not_mark_of_mark hcomma (by decide)

theorem plain_of_single {stands : Token → α → Prop} {tokens : List Token} {a : α}
    (h : Single stands tokens a) (hstands : ∀ {token a}, stands token a → ¬Mark ";" token) :
    Plain tokens := by
  obtain ⟨token, rfl, htoken⟩ := h
  exact plain_nil.cons (hstands htoken)

theorem plain_of_names {tokens : List Token} {names : List String}
    (h : Listed (Single Token.Names) tokens names) : Plain tokens :=
  h.plain fun hsingle => plain_of_single hsingle not_mark_of_names

theorem Columns.plain {tokens : List Token} {columns : List String}
    (h : Columns tokens columns) : Plain tokens := by
  cases h with
  | absent => exact plain_nil
  | given hleft hcolumns _ hright =>
      refine Plain.cons (Plain.append (plain_of_names hcolumns) ?_)
        (not_mark_of_mark hleft (by decide))
      exact plain_nil.cons (not_mark_of_mark hright (by decide))

theorem Selected.plain {tokens : List Token} {columns : Selection}
    (h : Selected tokens columns) : Plain tokens := by
  cases h with
  | all hstar => exact plain_nil.cons (not_mark_of_mark hstar (by decide))
  | columns hnames => exact plain_of_names hnames

theorem Assigned.plain {tokens : List Token} {assignment : String × String}
    (h : Assigned tokens assignment) : Plain tokens := by
  obtain ⟨hname, _, hsign, hvalue⟩ := h
  exact ((plain_nil.cons (not_mark_of_gives hvalue)).cons
    (not_mark_of_mark hsign (by decide))).cons (not_mark_of_names hname)

theorem Clause.plain {tokens : List Token} {condition : Option Condition}
    (h : Clause tokens condition) : Plain tokens := by
  cases h with
  | absent => exact plain_nil
  | empty hfirst => exact plain_nil.cons hfirst.not_mark
  | given hfirst hplain => exact hplain.cons hfirst.not_mark

/-- The tokens end with a semicolon, and there is no other. -/
def Ended (tokens : List Token) : Prop :=
  ∃ before last, tokens = before ++ [last] ∧ Plain before ∧ Mark ";" last

theorem ended_singleton {last : Token} (h : Mark ";" last) : Ended [last] :=
  ⟨[], last, rfl, plain_nil, h⟩

theorem Ended.append {left right : List Token} (hright : Ended right) (hleft : Plain left) :
    Ended (left ++ right) := by
  obtain ⟨before, last, rfl, hbefore, hlast⟩ := hright
  exact ⟨left ++ before, last, (List.append_assoc ..).symm, hleft.append hbefore, hlast⟩

theorem Ended.cons {token : Token} {tokens : List Token} (htokens : Ended tokens)
    (htoken : ¬Mark ";" token) : Ended (token :: tokens) :=
  htokens.append (plain_nil.cons htoken)

open Statement (Form)

/-- The only semicolon of a statement is its last token. -/
theorem Spells.ended {form : Form} {tokens : List Token} {statement : Statement}
    (h : Spells form tokens statement) : Ended tokens := by
  cases h with
  | use h₁ h₂ hlast =>
      exact ((ended_singleton hlast).cons (not_mark_of_names h₂)).cons h₁.not_mark
  | createDatabase h₁ h₂ h₃ hlast | dropTable h₁ h₂ h₃ hlast | dropDatabase h₁ h₂ h₃ hlast =>
      exact (((ended_singleton hlast).cons (not_mark_of_names h₃)).cons
        h₂.not_mark).cons h₁.not_mark
  | createTable h₁ h₂ h₃ hcolumns hlast =>
      exact ((((ended_singleton hlast).append hcolumns.plain).cons
        (not_mark_of_names h₃)).cons h₂.not_mark).cons h₁.not_mark
  | insert h₁ h₂ h₃ h₄ hleft hvalues hright hlast =>
      have hplain := hvalues.plain fun hsingle => plain_of_single hsingle not_mark_of_gives
      have hend := (ended_singleton hlast).cons (not_mark_of_mark hright (by decide))
      exact (((((hend.append hplain).cons (not_mark_of_mark hleft (by decide))).cons
        h₄.not_mark).cons (not_mark_of_names h₃)).cons h₂.not_mark).cons h₁.not_mark
  | select h₁ hcolumns h₂ h₃ hclause hlast =>
      have hend := (ended_singleton hlast).append hclause.plain
      exact (((hend.cons (not_mark_of_names h₃)).cons h₂.not_mark).append
        hcolumns.plain).cons h₁.not_mark
  | update h₁ h₂ h₃ hassignments hclause hlast =>
      have hend := (ended_singleton hlast).append hclause.plain
      exact (((hend.append (hassignments.plain Assigned.plain)).cons h₃.not_mark).cons
        (not_mark_of_names h₂)).cons h₁.not_mark
  | delete h₁ h₂ h₃ hclause hlast =>
      have hend := (ended_singleton hlast).append hclause.plain
      exact ((hend.cons (not_mark_of_names h₃)).cons h₂.not_mark).cons h₁.not_mark
  | add h₁ h₂ h₃ h₄ h₅ hlast | drop h₁ h₂ h₃ h₄ h₅ hlast =>
      exact (((((ended_singleton hlast).cons (not_mark_of_names h₅)).cons h₄.not_mark).cons
        (not_mark_of_names h₃)).cons h₂.not_mark).cons h₁.not_mark
  | join h₁ h₂ h₃ h₄ h₅ h₆ h₇ h₈ hlast =>
      have hon := ((((ended_singleton hlast).cons (not_mark_of_names h₈)).cons
        h₇.not_mark).cons (not_mark_of_names h₆)).cons h₅.not_mark
      exact (((hon.cons (not_mark_of_names h₄)).cons h₃.not_mark).cons
        (not_mark_of_names h₂)).cons h₁.not_mark

end Grammar

namespace Statement

open Attempt Scan Grammar
open Text (sameWord)

/-! ## The form of a statement -/

namespace Form

theorem ofTokens_of_word {word : String} {form : Form} {first : Token} {rest : List Token}
    (hfirst : Word word first) (hcreate : sameWord word "CREATE" = false)
    (hfind : (keywords.find? fun entry => sameWord word entry.1).map Prod.snd = some form) :
    ofTokens (first :: rest) = .ok form := by
  obtain ⟨entry, hentry, rfl⟩ := Option.map_eq_some_iff.mp hfind
  simp only [Word, Token.is, Bool.and_eq_true, beq_iff_eq] at hfirst
  have hsame : ∀ other, sameWord first.value other = sameWord word other :=
    Text.sameWord_congr hfirst.2
  simp [ofTokens.eq_def, hfirst.1, hsame, hcreate, hentry]

theorem ofTokens_create {first second : Token} {rest : List Token} (hfirst : Word "CREATE" first) :
    ofTokens (first :: second :: rest) =
      if second.is .keyword "DATABASE" then .ok createDatabase
      else if second.is .keyword "TABLE" then .ok createTable
      else .error .createWhat := by
  simp only [Word, Token.is, Bool.and_eq_true, beq_iff_eq] at hfirst
  rw [ofTokens, hfirst.1, hfirst.2]
  rfl

end Form

/-- The first tokens of a statement tell its form. -/
theorem form_eq_of_spells {form : Form} {tokens : List Token} {statement : Statement}
    (h : Spells form tokens statement) : Form.ofTokens tokens = .ok form := by
  cases h with
  | createDatabase h₁ h₂ => exact (Form.ofTokens_create h₁).trans (if_pos h₂)
  | createTable h₁ h₂ =>
      refine (Form.ofTokens_create h₁).trans ((if_neg ?_).trans (if_pos h₂))
      exact Bool.eq_false_iff.mp (not_is_of_is h₂ (Or.inr (by decide)))
  | use h₁ | insert h₁ | select h₁ | update h₁ | delete h₁ | add h₁ | drop h₁ | dropTable h₁
  | dropDatabase h₁ | join h₁ => exact Form.ofTokens_of_word h₁ (by decide) rfl

/-! ## Phrases -/

theorem reads_newColumn (before : List String) :
    Reads (newColumn before) fun tokens column rest =>
      ∃ used, tokens = used ++ rest ∧ Single Token.Names used column ∧
        sameWord column "id" = false ∧ ∀ other ∈ before, sameWord other column = false := by
  have hnew : ∀ column, ¬(sameWord column "id" || before.any (sameWord · column)) = true ↔
      sameWord column "id" = false ∧ ∀ other ∈ before, sameWord other column = false := by
    intro column
    simp
  refine (reads_name.bind fun column => reads_ite (reads_fail _) (reads_pure column)).congr
    fun tokens column rest => ⟨?_, ?_⟩
  · rintro ⟨_, _, ⟨token, rfl, hname⟩, ⟨_, hfalse⟩ | ⟨hunseen, rfl, rfl⟩⟩
    · exact hfalse.elim
    · exact ⟨[token], rfl, ⟨token, rfl, hname⟩, (hnew _).mp hunseen⟩
  · rintro ⟨_, rfl, ⟨token, rfl, hname⟩, hunseen⟩
    exact ⟨column, rest, ⟨token, rfl, hname⟩, Or.inr ⟨(hnew _).mpr hunseen, rfl, rfl⟩⟩

/-- Columns that are new one after another are new together. -/
theorem suit_newColumn_iff {before columns : List String} :
    Suit (fun before column => sameWord column "id" = false ∧
        ∀ other ∈ before, sameWord other column = false) before columns ↔
      (∀ column ∈ columns, ∀ other ∈ before, sameWord other column = false) ∧
        AreNew columns := by
  induction columns generalizing before with
  | nil => exact ⟨fun _ => ⟨nofun, nofun, .nil⟩, fun _ => trivial⟩
  | cons first more ih =>
      rw [Suit, ih]
      refine ⟨?_, ?_⟩
      · rintro ⟨⟨hkey, hfirst⟩, hbefore, hnew⟩
        refine ⟨List.forall_mem_cons.mpr ⟨hfirst, fun column hcolumn other hother => ?_⟩,
          List.forall_mem_cons.mpr ⟨hkey, hnew.ne_key⟩,
          List.pairwise_cons.mpr ⟨fun column hcolumn => ?_, hnew.distinct⟩⟩
        · exact hbefore column hcolumn other (List.mem_cons_of_mem _ hother)
        · exact hbefore column hcolumn first List.mem_cons_self
      · rintro ⟨hbefore, hnew⟩
        obtain ⟨hkey, hkeys⟩ := List.forall_mem_cons.mp hnew.ne_key
        obtain ⟨hfirst, hdistinct⟩ := List.pairwise_cons.mp hnew.distinct
        refine ⟨⟨hkey, hbefore first List.mem_cons_self⟩, fun column hcolumn => ?_,
          hkeys, hdistinct⟩
        refine List.forall_mem_cons.mpr ⟨hfirst column hcolumn, ?_⟩
        exact hbefore column (List.mem_cons_of_mem _ hcolumn)

theorem suit_true {α : Type} (before entries : List α) :
    Suit (fun _ _ => True) before entries := by
  induction entries generalizing before with
  | nil => trivial
  | cons first more ih => exact ⟨trivial, ih _⟩

/-- A list of entries that are read alike, whatever stands before them. -/
theorem reads_list_of_forall {α : Type} {entry : Scan α} {phrase : List Token → α → Prop}
    (hentry : Reads entry fun tokens a rest => ∃ used, tokens = used ++ rest ∧ phrase used a) :
    Reads (Scan.list fun _ => entry) fun tokens entries rest =>
      ∃ used, tokens = used ++ rest ∧ Listed phrase used entries ∧ ¬Ahead .symbol "," rest := by
  have halone : ∀ _ : List α, Reads entry fun tokens a rest =>
      ∃ used, tokens = used ++ rest ∧ phrase used a ∧ True := by
    refine fun _ => hentry.congr fun tokens a rest => ?_
    simp only [and_true]
  refine (reads_list halone).congr fun tokens entries rest => ⟨?_, ?_⟩
  · rintro ⟨used, heq, hlisted, _, hstop⟩
    exact ⟨used, heq, hlisted, hstop⟩
  · rintro ⟨used, heq, hlisted, hstop⟩
    exact ⟨used, heq, hlisted, suit_true _ _, hstop⟩

/-- A list of entries of one token each. -/
theorem reads_list_of_single {α : Type} {entry : Scan α} {means : Token → α → Prop}
    (hentry : Reads entry fun tokens a rest => ∃ token, tokens = token :: rest ∧ means token a) :
    Reads (Scan.list fun _ => entry) fun tokens entries rest =>
      ∃ used, tokens = used ++ rest ∧ Listed (Single means) used entries ∧
        ¬Ahead .symbol "," rest := by
  refine reads_list_of_forall (hentry.congr fun tokens a rest => ⟨?_, ?_⟩)
  · rintro ⟨token, rfl, hmeans⟩
    exact ⟨[token], rfl, token, rfl, hmeans⟩
  · rintro ⟨_, rfl, token, rfl, hmeans⟩
    exact ⟨token, rfl, hmeans⟩

theorem reads_names :
    Reads (Scan.list fun _ => name) fun tokens names rest =>
      ∃ used, tokens = used ++ rest ∧ Listed (Single Token.Names) used names ∧
        ¬Ahead .symbol "," rest :=
  reads_list_of_single reads_name

theorem reads_items :
    Reads (Scan.list fun _ => item) fun tokens values rest =>
      ∃ used, tokens = used ++ rest ∧ Listed (Single Token.Gives) used values ∧
        ¬Ahead .symbol "," rest :=
  reads_list_of_single reads_item

theorem reads_newColumns :
    Reads newColumns fun tokens columns rest =>
      ∃ used, tokens = used ++ rest ∧ Columns used columns ∧
        (used = [] → ¬Ahead .symbol "(" rest) := by
  refine (reads_if_accept ((reads_list reads_newColumn).bind fun columns =>
    (reads_mark .symbol ")").bind fun _ => reads_pure columns) (reads_pure [])).congr
      fun tokens columns rest => ⟨?_, ?_⟩
  · rintro (⟨left, _, rfl, hleft, columns, _, ⟨used, rfl, hlisted, hsuit, _⟩, _, _,
      ⟨right, rfl, hright⟩, rfl, rfl⟩ | ⟨hnot, rfl, rfl⟩)
    · refine ⟨left :: (used ++ [right]), ?_, .given hleft hlisted
        (suit_newColumn_iff.mp hsuit).2 hright, nofun⟩
      rw [List.cons_append, List.append_assoc, List.singleton_append]
    · exact ⟨[], rfl, .absent, fun _ => hnot⟩
  · rintro ⟨_, rfl, hcolumns, hstop⟩
    cases hcolumns with
    | absent => exact Or.inr ⟨hstop rfl, rfl, rfl⟩
    | @given left right used _ hleft hlisted hnew hright =>
        refine Or.inl ⟨left, used ++ right :: rest, ?_, hleft, columns, right :: rest,
          ⟨used, rfl, hlisted, ?_, ?_⟩, (), rest, ⟨right, rfl, hright⟩, rfl, rfl⟩
        · rw [List.cons_append, List.append_assoc, List.singleton_append]
        · exact suit_newColumn_iff.mpr ⟨fun _ _ => nofun, hnew⟩
        · exact not_ahead_of_is hright (Or.inr (by decide))

theorem reads_selection :
    Reads selection fun tokens columns rest =>
      ∃ used, tokens = used ++ rest ∧ Selected used columns ∧
        (columns ≠ .all → ¬Ahead .symbol "," rest) := by
  refine (reads_if_accept (reads_pure Selection.all) (reads_names.bind fun names =>
    reads_pure (Selection.columns names))).congr fun tokens columns rest => ⟨?_, ?_⟩
  · rintro (⟨star, _, rfl, hstar, rfl, rfl⟩ |
      ⟨_, names, _, ⟨used, rfl, hlisted, hstop⟩, rfl, rfl⟩)
    · exact ⟨[star], rfl, .all hstar, fun hne => absurd rfl hne⟩
    · exact ⟨used, rfl, .columns hlisted, fun _ => hstop⟩
  · rintro ⟨_, rfl, hselected, hstop⟩
    cases hselected with
    | @all star hstar => exact Or.inl ⟨star, rest, rfl, hstar, rfl, rfl⟩
    | @columns _ names hlisted =>
        refine Or.inr ⟨?_, names, rest, ⟨_, rfl, hlisted, hstop nofun⟩, rfl, rfl⟩
        -- A list begins with a name, which is no mark.
        obtain ⟨token, rfl, hname⟩ | ⟨⟨token, rfl, hname⟩, _, _⟩ := hlisted
        · exact not_ahead_cons_iff.mpr (not_mark_of_names hname)
        · exact not_ahead_cons_iff.mpr (not_mark_of_names hname)

theorem reads_assignment :
    Reads assignment fun tokens entry rest =>
      ∃ used, tokens = used ++ rest ∧ Assigned used entry := by
  refine (reads_name.bind fun column => reads_ite (reads_fail _)
    ((reads_mark .symbol "=").bind fun _ => reads_item.bind fun value =>
      reads_pure (column, value))).congr fun tokens entry rest => ⟨?_, ?_⟩
  · rintro ⟨_, _, ⟨column, rfl, hname⟩, ⟨_, hfalse⟩ | ⟨hkey, _, _, ⟨sign, rfl, hsign⟩, _, _,
      ⟨given, rfl, hvalue⟩, rfl, rfl⟩⟩
    · exact hfalse.elim
    · exact ⟨[column, sign, given], rfl, hname, Bool.eq_false_iff.mpr hkey, hsign, hvalue⟩
  · rintro ⟨_, rfl, hname, hkey, hsign, hvalue⟩
    exact ⟨_, _, ⟨_, rfl, hname⟩, Or.inr ⟨Bool.eq_false_iff.mp hkey, (), _, ⟨_, rfl, hsign⟩,
      _, rest, ⟨_, rfl, hvalue⟩, rfl, rfl⟩⟩

/-! ## The routines -/

/-- A routine reads all of the tokens, if they spell a statement of its form. -/
def ReadsAll (form : Form) : Prop :=
  Reads form.scan fun tokens statement rest => Spells form tokens statement ∧ rest = []

theorem readsAll_use : ReadsAll .use := by
  refine ((reads_keyword "USE").bind fun _ => reads_name.bind fun database =>
    reads_finish.bind fun _ => reads_pure (Statement.use database)).congr
      fun tokens statement rest => ⟨?_, ?_⟩
  · rintro ⟨_, _, ⟨t₁, rfl, h₁⟩, _, _, ⟨t₂, rfl, h₂⟩, _, _, ⟨last, rfl, rfl, hlast⟩, rfl, rfl⟩
    exact ⟨.use h₁ h₂ hlast, rfl⟩
  · rintro ⟨hspells, rfl⟩
    cases hspells with
    | use h₁ h₂ hlast =>
        exact ⟨(), _, ⟨_, rfl, h₁⟩, _, _, ⟨_, rfl, h₂⟩, (), _, ⟨_, rfl, rfl, hlast⟩, rfl, rfl⟩

theorem readsAll_createDatabase : ReadsAll .createDatabase := by
  refine ((reads_keyword "CREATE").bind fun _ => (reads_keyword "DATABASE").bind fun _ =>
    reads_name.bind fun database => reads_finish.bind fun _ =>
      reads_pure (Statement.createDatabase database)).congr fun tokens statement rest => ⟨?_, ?_⟩
  · rintro ⟨_, _, ⟨t₁, rfl, h₁⟩, _, _, ⟨t₂, rfl, h₂⟩, _, _, ⟨t₃, rfl, h₃⟩, _, _,
      ⟨last, rfl, rfl, hlast⟩, rfl, rfl⟩
    exact ⟨.createDatabase h₁ h₂ h₃ hlast, rfl⟩
  · rintro ⟨hspells, rfl⟩
    cases hspells with
    | createDatabase h₁ h₂ h₃ hlast =>
        exact ⟨(), _, ⟨_, rfl, h₁⟩, (), _, ⟨_, rfl, h₂⟩, _, _, ⟨_, rfl, h₃⟩, (), _,
          ⟨_, rfl, rfl, hlast⟩, rfl, rfl⟩

theorem readsAll_createTable : ReadsAll .createTable := by
  refine ((reads_keyword "CREATE").bind fun _ => (reads_keyword "TABLE").bind fun _ =>
    reads_name.bind fun table => reads_newColumns.bind fun columns => reads_finish.bind fun _ =>
      reads_pure (Statement.createTable table columns)).congr fun tokens statement rest => ⟨?_, ?_⟩
  · rintro ⟨_, _, ⟨t₁, rfl, h₁⟩, _, _, ⟨t₂, rfl, h₂⟩, _, _, ⟨t₃, rfl, h₃⟩, _, _,
      ⟨used, rfl, hcolumns, _⟩, _, _, ⟨last, rfl, rfl, hlast⟩, rfl, rfl⟩
    exact ⟨.createTable h₁ h₂ h₃ hcolumns hlast, rfl⟩
  · rintro ⟨hspells, rfl⟩
    cases hspells with
    | createTable h₁ h₂ h₃ hcolumns hlast =>
        exact ⟨(), _, ⟨_, rfl, h₁⟩, (), _, ⟨_, rfl, h₂⟩, _, _, ⟨_, rfl, h₃⟩, _, _,
          ⟨_, rfl, hcolumns, fun _ => not_ahead_of_is hlast (Or.inr (by decide))⟩, (), _,
          ⟨_, rfl, rfl, hlast⟩, rfl, rfl⟩

theorem readsAll_insert : ReadsAll .insert := by
  refine ((reads_keyword "INSERT").bind fun _ => (reads_keyword "INTO").bind fun _ =>
    reads_name.bind fun table => (reads_keyword "VALUES").bind fun _ =>
      (reads_mark .symbol "(").bind fun _ => reads_items.bind fun values =>
        (reads_mark .symbol ")").bind fun _ => reads_finish.bind fun _ =>
          reads_pure (Statement.insert table values)).congr fun tokens statement rest => ⟨?_, ?_⟩
  · rintro ⟨_, _, ⟨t₁, rfl, h₁⟩, _, _, ⟨t₂, rfl, h₂⟩, _, _, ⟨t₃, rfl, h₃⟩, _, _,
      ⟨t₄, rfl, h₄⟩, _, _, ⟨left, rfl, hleft⟩, _, _, ⟨used, rfl, hvalues, _⟩, _, _,
      ⟨right, rfl, hright⟩, _, _, ⟨last, rfl, rfl, hlast⟩, rfl, rfl⟩
    exact ⟨.insert h₁ h₂ h₃ h₄ hleft hvalues hright hlast, rfl⟩
  · rintro ⟨hspells, rfl⟩
    cases hspells with
    | insert h₁ h₂ h₃ h₄ hleft hvalues hright hlast =>
        exact ⟨(), _, ⟨_, rfl, h₁⟩, (), _, ⟨_, rfl, h₂⟩, _, _, ⟨_, rfl, h₃⟩, (), _,
          ⟨_, rfl, h₄⟩, (), _, ⟨_, rfl, hleft⟩, _, _,
          ⟨_, rfl, hvalues, not_ahead_of_is hright (Or.inr (by decide))⟩, (), _,
          ⟨_, rfl, hright⟩, (), _, ⟨_, rfl, rfl, hlast⟩, rfl, rfl⟩

/-- Before the semicolon at the end, a condition ends or is absent. -/
theorem clause_stops {used : List Token} {last : Token} (hlast : Mark ";" last) :
    if used = [] then ¬Ahead .keyword "WHERE" [last]
    else [last] = [] ∨ Ahead .symbol ";" [last] := by
  split
  · exact not_ahead_of_is hlast (Or.inl (by decide))
  · exact Or.inr ⟨last, [], rfl, hlast⟩

theorem not_comma_ahead_clause {clause : List Token} {condition : Option Condition} {last : Token}
    (hclause : Clause clause condition) (hlast : Mark ";" last) :
    ¬Ahead .symbol "," (clause ++ [last]) := by
  cases hclause with
  | absent => exact not_ahead_of_is hlast (Or.inr (by decide))
  | empty hfirst => exact not_ahead_of_is hfirst (Or.inl (by decide))
  | given hfirst => exact not_ahead_of_is hfirst (Or.inl (by decide))

theorem readsAll_select : ReadsAll .select := by
  refine ((reads_keyword "SELECT").bind fun _ => reads_selection.bind fun columns =>
    (reads_mark .keyword "FROM").bind fun _ => reads_name.bind fun table =>
      reads_condition.bind fun condition => reads_finish.bind fun _ =>
        reads_pure (Statement.select table columns condition)).congr
          fun tokens statement rest => ⟨?_, ?_⟩
  · rintro ⟨_, _, ⟨t₁, rfl, h₁⟩, _, _, ⟨used, rfl, hcolumns, _⟩, _, _, ⟨t₂, rfl, h₂⟩, _, _,
      ⟨t₃, rfl, h₃⟩, _, _, ⟨clause, rfl, hclause, _⟩, _, _, ⟨last, rfl, rfl, hlast⟩, rfl, rfl⟩
    exact ⟨.select h₁ hcolumns h₂ h₃ hclause hlast, rfl⟩
  · rintro ⟨hspells, rfl⟩
    cases hspells with
    | select h₁ hcolumns h₂ h₃ hclause hlast =>
        exact ⟨(), _, ⟨_, rfl, h₁⟩, _, _,
          ⟨_, rfl, hcolumns, fun _ => not_ahead_of_is h₂ (Or.inl (by decide))⟩, (), _,
          ⟨_, rfl, h₂⟩, _, _, ⟨_, rfl, h₃⟩, _, _, ⟨_, rfl, hclause, clause_stops hlast⟩, (), _,
          ⟨_, rfl, rfl, hlast⟩, rfl, rfl⟩

theorem readsAll_update : ReadsAll .update := by
  refine ((reads_keyword "UPDATE").bind fun _ => reads_name.bind fun table =>
    (reads_keyword "SET").bind fun _ => (reads_list_of_forall reads_assignment).bind fun entries =>
      reads_condition.bind fun condition => reads_finish.bind fun _ =>
        reads_pure (Statement.update table entries condition)).congr
          fun tokens statement rest => ⟨?_, ?_⟩
  · rintro ⟨_, _, ⟨t₁, rfl, h₁⟩, _, _, ⟨t₂, rfl, h₂⟩, _, _, ⟨t₃, rfl, h₃⟩, _, _,
      ⟨used, rfl, hassignments, _⟩, _, _, ⟨clause, rfl, hclause, _⟩, _, _,
      ⟨last, rfl, rfl, hlast⟩, rfl, rfl⟩
    exact ⟨.update h₁ h₂ h₃ hassignments hclause hlast, rfl⟩
  · rintro ⟨hspells, rfl⟩
    cases hspells with
    | update h₁ h₂ h₃ hassignments hclause hlast =>
        exact ⟨(), _, ⟨_, rfl, h₁⟩, _, _, ⟨_, rfl, h₂⟩, (), _, ⟨_, rfl, h₃⟩, _, _,
          ⟨_, rfl, hassignments, not_comma_ahead_clause hclause hlast⟩, _, _,
          ⟨_, rfl, hclause, clause_stops hlast⟩, (), _, ⟨_, rfl, rfl, hlast⟩, rfl, rfl⟩

theorem readsAll_delete : ReadsAll .delete := by
  refine ((reads_keyword "DELETE").bind fun _ => (reads_keyword "FROM").bind fun _ =>
    reads_name.bind fun table => reads_condition.bind fun condition => reads_finish.bind fun _ =>
      reads_pure (Statement.delete table condition)).congr fun tokens statement rest => ⟨?_, ?_⟩
  · rintro ⟨_, _, ⟨t₁, rfl, h₁⟩, _, _, ⟨t₂, rfl, h₂⟩, _, _, ⟨t₃, rfl, h₃⟩, _, _,
      ⟨clause, rfl, hclause, _⟩, _, _, ⟨last, rfl, rfl, hlast⟩, rfl, rfl⟩
    exact ⟨.delete h₁ h₂ h₃ hclause hlast, rfl⟩
  · rintro ⟨hspells, rfl⟩
    cases hspells with
    | delete h₁ h₂ h₃ hclause hlast =>
        exact ⟨(), _, ⟨_, rfl, h₁⟩, (), _, ⟨_, rfl, h₂⟩, _, _, ⟨_, rfl, h₃⟩, _, _,
          ⟨_, rfl, hclause, clause_stops hlast⟩, (), _, ⟨_, rfl, rfl, hlast⟩, rfl, rfl⟩

theorem reads_alteration :
    Reads alteration fun tokens change rest =>
      ∃ token, tokens = token :: rest ∧
        (Word "ADD" token ∧ change = .add ∨ Word "DROP" token ∧ change = .drop) := by
  refine (reads_if_accept (reads_pure Alteration.add) (reads_if_accept (reads_pure Alteration.drop)
    (reads_fail _))).congr fun tokens change rest => ⟨?_, ?_⟩
  · rintro (⟨token, _, rfl, hadd, rfl, rfl⟩ | ⟨_, ⟨token, _, rfl, hdrop, rfl, rfl⟩ |
      ⟨_, hfalse⟩⟩)
    · exact ⟨token, rfl, Or.inl ⟨hadd, rfl⟩⟩
    · exact ⟨token, rfl, Or.inr ⟨hdrop, rfl⟩⟩
    · exact hfalse.elim
  · rintro ⟨token, rfl, ⟨hadd, rfl⟩ | ⟨hdrop, rfl⟩⟩
    · exact Or.inl ⟨token, rest, rfl, hadd, rfl, rfl⟩
    · exact Or.inr ⟨not_ahead_of_is hdrop (Or.inr (by decide)),
        Or.inl ⟨token, rest, rfl, hdrop, rfl, rfl⟩⟩

theorem readsAll_alter : ReadsAll .alter := by
  refine ((reads_keyword "ALTER").bind fun _ => (reads_keyword "TABLE").bind fun _ =>
    reads_name.bind fun table => reads_alteration.bind fun change =>
      reads_name.bind fun column => reads_finish.bind fun _ =>
        reads_pure (Statement.alter table change column)).congr
          fun tokens statement rest => ⟨?_, ?_⟩
  · rintro ⟨_, _, ⟨t₁, rfl, h₁⟩, _, _, ⟨t₂, rfl, h₂⟩, _, _, ⟨t₃, rfl, h₃⟩, _, _,
      ⟨t₄, rfl, h₄⟩, _, _, ⟨t₅, rfl, h₅⟩, _, _, ⟨last, rfl, rfl, hlast⟩, rfl, rfl⟩
    rcases h₄ with ⟨h₄, rfl⟩ | ⟨h₄, rfl⟩
    · exact ⟨.add h₁ h₂ h₃ h₄ h₅ hlast, rfl⟩
    · exact ⟨.drop h₁ h₂ h₃ h₄ h₅ hlast, rfl⟩
  · rintro ⟨hspells, rfl⟩
    cases hspells with
    | add h₁ h₂ h₃ h₄ h₅ hlast =>
        exact ⟨(), _, ⟨_, rfl, h₁⟩, (), _, ⟨_, rfl, h₂⟩, _, _, ⟨_, rfl, h₃⟩, _, _,
          ⟨_, rfl, Or.inl ⟨h₄, rfl⟩⟩, _, _, ⟨_, rfl, h₅⟩, (), _, ⟨_, rfl, rfl, hlast⟩, rfl, rfl⟩
    | drop h₁ h₂ h₃ h₄ h₅ hlast =>
        exact ⟨(), _, ⟨_, rfl, h₁⟩, (), _, ⟨_, rfl, h₂⟩, _, _, ⟨_, rfl, h₃⟩, _, _,
          ⟨_, rfl, Or.inr ⟨h₄, rfl⟩⟩, _, _, ⟨_, rfl, h₅⟩, (), _, ⟨_, rfl, rfl, hlast⟩, rfl, rfl⟩

/-- The word behind `DROP` is a keyword, in any case. -/
theorem reads_object :
    Reads (value [.keyword]) fun tokens object rest =>
      ∃ token, tokens = token :: rest ∧ valueOf [.keyword] token = .ok object :=
  reads_next fun _ _ _ => Iff.rfl

theorem valueOf_keyword {token : Token} {word object : String}
    (hword : ∀ other ∈ ["*", "TRUE", "FALSE"], sameWord other word = false) :
    (valueOf [.keyword] token = .ok object ∧ sameWord object word = true) ↔
      Word word token ∧ object = token.value := by
  refine ⟨?_, ?_⟩
  · rintro ⟨hvalue, hsame⟩
    have hne : ∀ other ∈ ["*", "TRUE", "FALSE"], object ≠ other := by
      rintro other hother rfl
      rw [hword _ hother] at hsame
      cases hsame
    obtain (heq | heq) | ⟨heq, heq' | ⟨hcategory, _⟩⟩ := valueOf_eq_ok hvalue
    · exact absurd heq (hne _ (by decide))
    · exact absurd heq (hne _ (by decide))
    · exact absurd heq' (hne _ (by decide))
    · refine ⟨?_, heq⟩
      rw [Word, Token.is, List.mem_singleton.mp hcategory, ← heq, hsame]
      rfl
  · rintro ⟨hkeyword, rfl⟩
    simp only [Word, Token.is, Bool.and_eq_true, beq_iff_eq] at hkeyword
    have hother : ∀ other ∈ ["*", "TRUE", "FALSE"], sameWord token.value other = false := by
      intro other hmem
      rw [Text.sameWord_congr hkeyword.2, Text.sameWord_comm]
      exact hword other hmem
    have hstar : (token.value == "*") = false := by
      refine beq_false_of_ne fun heq => ?_
      have hsame := hother "*" (by decide)
      rw [heq] at hsame
      cases hsame
    refine ⟨?_, hkeyword.2⟩
    simp [valueOf, hstar, hother, hkeyword.1]

theorem reads_dropped :
    Reads dropped fun tokens statement rest =>
      ∃ object token name, tokens = object :: token :: rest ∧ token.Names name ∧
        (Word "TABLE" object ∧ statement = .dropTable name ∨
          Word "DATABASE" object ∧ statement = .dropDatabase name) := by
  refine (reads_object.bind fun object => reads_ite
    (reads_name.bind fun table => reads_pure (Statement.dropTable table))
    (reads_ite (reads_name.bind fun database => reads_pure (Statement.dropDatabase database))
      (reads_fail _))).congr fun tokens statement rest => ⟨?_, ?_⟩
  · rintro ⟨_, _, ⟨object, rfl, hobject⟩, ⟨htable, name, _, ⟨token, rfl, hname⟩, rfl, rfl⟩ |
      ⟨_, ⟨hdatabase, name, _, ⟨token, rfl, hname⟩, rfl, rfl⟩ | ⟨_, hfalse⟩⟩⟩
    · have hword := ((valueOf_keyword (by decide)).mp ⟨hobject, htable⟩).1
      exact ⟨object, token, name, rfl, hname, Or.inl ⟨hword, rfl⟩⟩
    · have hword := ((valueOf_keyword (by decide)).mp ⟨hobject, hdatabase⟩).1
      exact ⟨object, token, name, rfl, hname, Or.inr ⟨hword, rfl⟩⟩
    · exact hfalse.elim
  · rintro ⟨object, token, name, rfl, hname, ⟨hword, rfl⟩ | ⟨hword, rfl⟩⟩
    · obtain ⟨hobject, htable⟩ := (valueOf_keyword (by decide)).mpr ⟨hword, rfl⟩
      exact ⟨_, _, ⟨object, rfl, hobject⟩, Or.inl ⟨htable, name, rest, ⟨token, rfl, hname⟩,
        rfl, rfl⟩⟩
    · obtain ⟨hobject, hdatabase⟩ := (valueOf_keyword (by decide)).mpr ⟨hword, rfl⟩
      have htable : ¬sameWord object.value "TABLE" = true := by
        rw [Text.sameWord_congr hdatabase]
        decide
      exact ⟨_, _, ⟨object, rfl, hobject⟩, Or.inr ⟨htable, Or.inl ⟨hdatabase, name, rest,
        ⟨token, rfl, hname⟩, rfl, rfl⟩⟩⟩

theorem readsAll_drop : ReadsAll .drop := by
  refine ((reads_keyword "DROP").bind fun _ => reads_dropped.bind fun statement =>
    reads_finish.bind fun _ => reads_pure statement).congr fun tokens statement rest => ⟨?_, ?_⟩
  · rintro ⟨_, _, ⟨t₁, rfl, h₁⟩, _, _, ⟨t₂, t₃, name, rfl, h₃, hdropped⟩, _, _,
      ⟨last, rfl, rfl, hlast⟩, rfl, rfl⟩
    rcases hdropped with ⟨h₂, rfl⟩ | ⟨h₂, rfl⟩
    · exact ⟨.dropTable h₁ h₂ h₃ hlast, rfl⟩
    · exact ⟨.dropDatabase h₁ h₂ h₃ hlast, rfl⟩
  · rintro ⟨hspells, rfl⟩
    cases hspells with
    | dropTable h₁ h₂ h₃ hlast =>
        exact ⟨(), _, ⟨_, rfl, h₁⟩, _, _, ⟨_, _, _, rfl, h₃, Or.inl ⟨h₂, rfl⟩⟩, (), _,
          ⟨_, rfl, rfl, hlast⟩, rfl, rfl⟩
    | dropDatabase h₁ h₂ h₃ hlast =>
        exact ⟨(), _, ⟨_, rfl, h₁⟩, _, _, ⟨_, _, _, rfl, h₃, Or.inr ⟨h₂, rfl⟩⟩, (), _,
          ⟨_, rfl, rfl, hlast⟩, rfl, rfl⟩

theorem readsAll_join : ReadsAll .join := by
  refine ((reads_keyword "JOIN").bind fun _ => reads_name.bind fun left =>
    (reads_mark .logicalOperator "AND").bind fun _ => reads_name.bind fun right =>
      (reads_mark .keyword "ON").bind fun _ => reads_name.bind fun leftColumn =>
        (reads_mark .logicalOperator "AND").bind fun _ => reads_name.bind fun rightColumn =>
          reads_finish.bind fun _ =>
            reads_pure (Statement.join left right leftColumn rightColumn)).congr
    fun tokens statement rest => ⟨?_, ?_⟩
  · rintro ⟨_, _, ⟨t₁, rfl, h₁⟩, _, _, ⟨t₂, rfl, h₂⟩, _, _, ⟨t₃, rfl, h₃⟩, _, _,
      ⟨t₄, rfl, h₄⟩, _, _, ⟨t₅, rfl, h₅⟩, _, _, ⟨t₆, rfl, h₆⟩, _, _, ⟨t₇, rfl, h₇⟩, _, _,
      ⟨t₈, rfl, h₈⟩, _, _, ⟨last, rfl, rfl, hlast⟩, rfl, rfl⟩
    exact ⟨.join h₁ h₂ h₃ h₄ h₅ h₆ h₇ h₈ hlast, rfl⟩
  · rintro ⟨hspells, rfl⟩
    cases hspells with
    | join h₁ h₂ h₃ h₄ h₅ h₆ h₇ h₈ hlast =>
        exact ⟨(), _, ⟨_, rfl, h₁⟩, _, _, ⟨_, rfl, h₂⟩, (), _, ⟨_, rfl, h₃⟩, _, _,
          ⟨_, rfl, h₄⟩, (), _, ⟨_, rfl, h₅⟩, _, _, ⟨_, rfl, h₆⟩, (), _, ⟨_, rfl, h₇⟩, _, _,
          ⟨_, rfl, h₈⟩, (), _, ⟨_, rfl, rfl, hlast⟩, rfl, rfl⟩

theorem readsAll_form (form : Form) : ReadsAll form := by
  cases form with
  | use => exact readsAll_use
  | createDatabase => exact readsAll_createDatabase
  | createTable => exact readsAll_createTable
  | insert => exact readsAll_insert
  | select => exact readsAll_select
  | update => exact readsAll_update
  | delete => exact readsAll_delete
  | alter => exact readsAll_alter
  | drop => exact readsAll_drop
  | join => exact readsAll_join

/-! ## Statements -/

/-- Tokens that are cut from a text are accepted if and only if they spell a statement. -/
theorem ofTokens_eq_ok_iff {tokens : List Token} {statement : Statement}
    (htokens : AllOf Token.Lexed tokens) :
    ofTokens tokens = .ok statement ↔ ∃ form, Spells form tokens statement := by
  have hform : ∀ {form rest}, form.scan.run tokens = (.ok statement, rest) ↔
      Spells form tokens statement ∧ rest = [] :=
    fun {form _} => (readsAll_form form).run_eq_ok_iff htokens
  refine ⟨fun h => ?_, ?_⟩
  · have hrun : (Routine.any.scan tokens).run tokens = (.ok statement, _) := Prod.ext h rfl
    obtain ⟨form, left, hof, hscan⟩ := run_bind_eq_ok.mp hrun
    rw [run_ofExcept, Prod.mk.injEq] at hof
    rw [← hof.2] at hscan
    exact ⟨form, (hform.mp hscan).1⟩
  · rintro ⟨form, hspells⟩
    have hrun : (Routine.any.scan tokens).run tokens = (.ok statement, []) := by
      refine run_bind_eq_ok.mpr ⟨form, tokens, ?_, hform.mpr ⟨hspells, rfl⟩⟩
      rw [run_ofExcept, form_eq_of_spells hspells]
    exact congrArg Prod.fst hrun

/-- A text that can be cut into tokens is accepted exactly if its tokens have one of the
shapes of the grammar, as the statement that they spell.  Then its only semicolon is the
last token. -/
theorem ofText_eq_ok_iff_spells {text : String} {tokens : List Token}
    (h : Token.ofText text = .ok tokens) :
    (∀ statement, ofText text = .ok statement ↔ ∃ form, Spells form tokens statement) ∧
      ((∃ statement, ofText text = .ok statement) → Ended tokens) := by
  have hiff : ∀ statement, ofText text = .ok statement ↔
      ∃ form, Spells form tokens statement := by
    intro statement
    rw [ofText, h]
    exact ofTokens_eq_ok_iff (Token.lexed_of_ofText h)
  refine ⟨hiff, ?_⟩
  rintro ⟨statement, hstatement⟩
  obtain ⟨form, hspells⟩ := (hiff statement).mp hstatement
  exact hspells.ended

theorem ofText_eq_ok_iff_spells_insert :
    Token.ofText "insert INTO t VALUES ('TRUE', true);" =
        .ok [⟨.keyword, "insert"⟩, ⟨.keyword, "INTO"⟩, ⟨.identifier, "t"⟩, ⟨.keyword, "VALUES"⟩,
          ⟨.symbol, "("⟩, ⟨.string, "'TRUE'"⟩, ⟨.symbol, ","⟩, ⟨.identifier, "true"⟩,
          ⟨.symbol, ")"⟩, ⟨.symbol, ";"⟩] ∧
      ofText "insert INTO t VALUES ('TRUE', true);" = .ok (.insert "t" ["'TRUE'", "TRUE"]) := by
  have htokens : Token.ofText "insert INTO t VALUES ('TRUE', true);" =
      .ok [⟨.keyword, "insert"⟩, ⟨.keyword, "INTO"⟩, ⟨.identifier, "t"⟩, ⟨.keyword, "VALUES"⟩,
        ⟨.symbol, "("⟩, ⟨.string, "'TRUE'"⟩, ⟨.symbol, ","⟩, ⟨.identifier, "true"⟩,
        ⟨.symbol, ")"⟩, ⟨.symbol, ";"⟩] := by
    decide +kernel
  have hliteral : Token.Gives ⟨.string, "'TRUE'"⟩ "'TRUE'" :=
    .plain (by decide) (by decide +kernel)
  have htruth : Token.Gives ⟨.identifier, "true"⟩ (Text.capitals "true") :=
    .truth rfl (by decide +kernel)
  have hvalues : Listed (Single Token.Gives)
      ([⟨.string, "'TRUE'"⟩] ++ ⟨.symbol, ","⟩ :: [⟨.identifier, "true"⟩])
      ["'TRUE'", Text.capitals "true"] :=
    .more ⟨_, rfl, hliteral⟩ (by decide) (.last ⟨_, rfl, htruth⟩)
  have hspells : Spells .insert
      (⟨.keyword, "insert"⟩ :: ⟨.keyword, "INTO"⟩ :: ⟨.identifier, "t"⟩ ::
        ⟨.keyword, "VALUES"⟩ :: ⟨.symbol, "("⟩ ::
        (([⟨.string, "'TRUE'"⟩] ++ ⟨.symbol, ","⟩ :: [⟨.identifier, "true"⟩]) ++
          [⟨.symbol, ")"⟩, ⟨.symbol, ";"⟩])) (.insert "t" ["'TRUE'", Text.capitals "true"]) :=
    .insert (by decide) (by decide) ⟨rfl, by decide +kernel, rfl⟩ (by decide) (by decide)
      hvalues (by decide) (by decide)
  have hcapitals : Text.capitals "true" = "TRUE" := by decide +kernel
  rw [hcapitals] at hspells
  exact ⟨htokens, ((ofText_eq_ok_iff_spells htokens).1 _).mpr ⟨.insert, hspells⟩⟩

end Statement

end TextTables
