import Mathlib
import TextTables.Proofs.Token.Lexed
import TextTables.Proofs.Token.Names
import TextTables.Proofs.Text.Split

/-!
# Texts that differ inside literals

Two texts that are equal except for what stands between matching quotes are cut into the
same tokens, except for these literals.  The contents that differ are listed in the order
in which they stand in the texts, and the same list describes the tokens: every literal
keeps its place and its own contents.
-/

namespace TextTables

/-- What stands between the same quotes in two texts, quotes after quotes. -/
abbrev Contents := List (List Char × List Char)

/-- Two values that are equal, or that are the same literal with the contents of each text.
Which contents they hold is told by the list. -/
inductive EqualBut {β : Type} (literal : List Char → β) : Contents → β → β → Prop
  | same (x : β) : EqualBut literal [] x x
  | differ (a b : List Char) : EqualBut literal [(a, b)] (literal a) (literal b)

/-- Lists that are related entry by entry, each entry with its own part of the contents. -/
inductive Each {β : Type} (R : Contents → β → β → Prop) : Contents → List β → List β → Prop
  | nil : Each R [] [] []
  | cons {contents more : Contents} {x y : β} {xs ys : List β} (hfirst : R contents x y)
      (hrest : Each R more xs ys) : Each R (contents ++ more) (x :: xs) (y :: ys)

namespace Each

variable {β γ : Type} {R : Contents → β → β → Prop} {S : Contents → γ → γ → Prop}
  {contents others : Contents} {xs ys zs ws : List β}

theorem refl (h : ∀ x, R [] x x) (xs : List β) : Each R [] xs xs := by
  induction xs with
  | nil => exact .nil
  | cons x _ ih => exact .cons (h x) ih

theorem cons_same {literal : List Char → β} (x : β) (h : Each (EqualBut literal) contents xs ys) :
    Each (EqualBut literal) contents (x :: xs) (x :: ys) := by
  have hcons : Each (EqualBut literal) ([] ++ contents) (x :: xs) (x :: ys) := .cons (.same x) h
  exact hcons

theorem cons_differ {literal : List Char → β} (a b : List Char)
    (h : Each (EqualBut literal) contents xs ys) :
    Each (EqualBut literal) ((a, b) :: contents) (literal a :: xs) (literal b :: ys) := by
  have hcons : Each (EqualBut literal) ([(a, b)] ++ contents) (literal a :: xs) (literal b :: ys) :=
    .cons (.differ a b) h
  exact hcons

theorem append (h : Each R contents xs ys) (h' : Each R others zs ws) :
    Each R (contents ++ others) (xs ++ zs) (ys ++ ws) := by
  induction h with
  | nil => exact h'
  | cons hfirst _ ih =>
      rw [List.append_assoc]
      exact .cons hfirst ih

theorem map {f : β → γ} (hf : ∀ contents x y, R contents x y → S contents (f x) (f y))
    (h : Each R contents xs ys) : Each S contents (xs.map f) (ys.map f) := by
  induction h with
  | nil => exact .nil
  | cons hfirst _ ih => exact .cons (hf _ _ _ hfirst) ih

theorem length_eq (h : Each R contents xs ys) : xs.length = ys.length := by
  induction h with
  | nil => rfl
  | cons _ _ ih => exact congrArg Nat.succ ih

end Each

/-- Both fail, and `F` holds of the faults, or neither fails, and `R` holds of the answers. -/
inductive Parallel {α : Type} (F : Fault → Fault → Prop) (R : α → α → Prop) :
    Except Fault α → Except Fault α → Prop
  | error {f g : Fault} (h : F f g) : Parallel F R (.error f) (.error g)
  | ok {a b : α} (h : R a b) : Parallel F R (.ok a) (.ok b)

namespace Parallel

variable {α β : Type} {F : Fault → Fault → Prop} {R : α → α → Prop} {S : β → β → Prop}
  {x y : Except Fault α}

theorem refl (hfault : ∀ f, F f f) (hanswer : ∀ a, R a a) (x : Except Fault α) :
    Parallel F R x x := by
  cases x with
  | error f => exact .error (hfault f)
  | ok a => exact .ok (hanswer a)

theorem bind {f g : α → Except Fault β} (h : Parallel F R x y)
    (hnext : ∀ a b, R a b → Parallel F S (f a) (g b)) : Parallel F S (x >>= f) (y >>= g) := by
  cases h with
  | error hfault => exact .error hfault
  | ok hanswer => exact hnext _ _ hanswer

theorem map {f g : α → β} (h : Parallel F R x y) (hnext : ∀ a b, R a b → S (f a) (g b)) :
    Parallel F S (x.map f) (y.map g) := by
  cases h with
  | error hfault => exact .error hfault
  | ok hanswer => exact .ok (hnext _ _ hanswer)

end Parallel

namespace Fragment

/-- Text that can stand between two quotes. -/
structure IsContent (content : List Char) : Prop where
  quote_not_mem : quote ∉ content
  tab_not_mem : '\t' ∉ content

/-- Texts that are equal except for what stands between matching quotes: behind an even
number of quotes, the next one opens a literal. -/
inductive DifferInside : Contents → List Char → List Char → Prop
  | same (cs : List Char) : DifferInside [] cs cs
  | differ {contents : Contents} {before a b cs ds : List Char}
      (hbefore : Even (before.count quote)) (ha : IsContent a) (hb : IsContent b)
      (h : DifferInside contents cs ds) :
      DifferInside ((a, b) :: contents) (before ++ quote :: (a ++ quote :: cs))
        (before ++ quote :: (b ++ quote :: ds))

theorem DifferInside.count_eq {contents : Contents} {cs ds : List Char}
    (h : DifferInside contents cs ds) : cs.count quote = ds.count quote := by
  induction h with
  | same cs => rfl
  | differ _ ha hb _ ih =>
      simp only [List.count_append, List.count_cons_self, ih,
        List.count_eq_zero_of_not_mem ha.quote_not_mem,
        List.count_eq_zero_of_not_mem hb.quote_not_mem]

/-- Spans that both texts begin with are cut into the same fragments. -/
theorem parallel_ofSpans_append {contents : Contents} {ss ts : List (List Char)} (inside : Bool)
    (spans : List (List Char))
    (h : Parallel Eq (Each (EqualBut literal) contents) (ofSpans (inside ^^ spans.length.bodd) ss)
      (ofSpans (inside ^^ spans.length.bodd) ts)) :
    Parallel Eq (Each (EqualBut literal) contents) (ofSpans inside (spans ++ ss))
      (ofSpans inside (spans ++ ts)) := by
  induction spans generalizing inside with
  | nil => simpa using h
  | cons span rest ih =>
      have hrest := ih (!inside) (by simpa using h)
      cases inside with
      | false => exact hrest.bind fun _ _ hmore => .ok ((Each.refl .same _).append hmore)
      | true =>
          rw [List.cons_append, List.cons_append, ofSpans, ofSpans]
          split
          · exact .error rfl
          · exact hrest.bind fun _ _ hmore => .ok (.cons_same _ hmore)

theorem parallel_ofSpans {contents : Contents} {cs ds : List Char}
    (h : DifferInside contents cs ds) :
    Parallel Eq (Each (EqualBut literal) contents) (ofSpans false (cs.splitOn quote))
      (ofSpans false (ds.splitOn quote)) := by
  induction h with
  | same cs => exact .refl (fun _ => rfl) (Each.refl .same) _
  | @differ contents before a b cs ds hbefore ha hb _ ih =>
      have hplain : ∀ {content : List Char}, IsContent content →
          ¬content.contains '\t' = true := by
        intro content hcontent
        rw [List.contains_iff_mem]
        exact hcontent.tab_not_mem
      have hodd : (before.splitOn quote).length.bodd = true := by
        obtain ⟨half, hhalf⟩ := hbefore
        rw [Text.length_splitOn, Nat.bodd_succ, hhalf, Nat.bodd_add, Bool.xor_self]
        rfl
      rw [List.splitOn_append_cons_self before, List.splitOn_append_cons_self before,
        List.splitOn_append_cons_self_of_not_mem ha.quote_not_mem,
        List.splitOn_append_cons_self_of_not_mem hb.quote_not_mem]
      refine parallel_ofSpans_append false (before.splitOn quote) ?_
      rw [hodd, Bool.false_xor, ofSpans, ofSpans, if_neg (hplain ha), if_neg (hplain hb)]
      exact ih.bind fun _ _ hmore => .ok (.cons_differ a b hmore)

/-- A literal with its quotes, as a text. -/
def quoted (content : List Char) : String :=
  String.ofList (literal content)

/-- The fragments are the same, except for the literals with their contents. -/
theorem parallel_ofText {contents : Contents} {s t : String}
    (h : DifferInside contents s.toList t.toList) :
    Parallel Eq (Each (EqualBut quoted) contents) (ofText s) (ofText t) := by
  have hlength : (s.toList.splitOn quote).length = (t.toList.splitOn quote).length := by
    rw [Text.length_splitOn, Text.length_splitOn, h.count_eq]
  rw [ofText, ofText, ofChars, ofChars, hlength]
  have hmap : ∀ fs gs, Each (EqualBut literal) contents fs gs →
      Each (EqualBut quoted) contents (fs.map String.ofList) (gs.map String.ofList) := by
    refine fun _ _ hfragments => hfragments.map ?_
    rintro _ _ _ (x | ⟨a, b⟩)
    · exact .same _
    · exact .differ a b
  refine Parallel.map ?_ hmap
  split
  · exact .error rfl
  · exact parallel_ofSpans h

theorem toList_quoted (content : List Char) :
    (quoted content).toList = quote :: (content ++ [quote]) :=
  String.toList_ofList

theorem quoted_toList (s : String) : quoted s.toList = "'" ++ s ++ "'" := by
  simp [← String.toList_inj, toList_quoted, quote]

end Fragment

namespace Token

open Fragment (quote quoted)
open Text (sameWord)

/-! ## The tokens that literals are -/

theorem toLower_eq_quote {c : Char} (h : c.toLower = quote) : c = quote := by
  by_cases hupper : c.isUpper = true
  · have halpha := isAlpha_toLower_of_isUpper hupper
    rw [h] at halpha
    exact absurd halpha (by decide)
  · rwa [Char.toLower_eq_of_not_isUpper hupper] at h

/-- A literal is no word that begins with anything but a quote. -/
theorem sameWord_quoted {word : String} (h : word.toList.head? ≠ some quote)
    (content : List Char) : sameWord (quoted content) word = false := by
  rw [Bool.eq_false_iff]
  intro hsame
  have hfolded := Text.sameWord_iff.mp hsame
  rw [Text.folded, Fragment.toList_quoted, Text.folded] at hfolded
  cases hword : word.toList with
  | nil =>
      rw [hword] at hfolded
      cases hfolded
  | cons c rest =>
      rw [hword, List.map_cons, List.map_cons, List.cons.injEq] at hfolded
      refine h ?_
      rw [hword, toLower_eq_quote (hfolded.1.symm.trans (by decide))]
      rfl

theorem quoted_not_mem {marks : List String}
    (h : ∀ mark ∈ marks, mark.toList.head? ≠ some quote) (content : List Char) :
    marks.contains (quoted content) = false := by
  rw [List.contains_eq_mem, decide_eq_false_iff_not]
  intro hmem
  refine h _ hmem ?_
  rw [Fragment.toList_quoted]
  rfl

theorem isLiteral_quoted (content : List Char) : isLiteral (quoted content) = true := by
  simp [isLiteral, Fragment.toList_quoted, unquoted?]

theorem stripQuotes_quoted (content : List Char) :
    stripQuotes (quoted content) = String.ofList content := by
  simp [stripQuotes, Fragment.toList_quoted, unquoted?]

theorem classify_quoted (content : List Char) : classify (quoted content) = .ok .string := by
  have hkeyword : isKeyword (quoted content) = false := by
    rw [isKeyword, List.any_eq_false]
    intro keyword hkeyword
    have hhead : ∀ keyword ∈ keywords, keyword.toList.head? ≠ some quote := by decide
    rw [sameWord_quoted (hhead keyword hkeyword)]
    exact Bool.false_ne_true
  have hsymbol : isSymbol (quoted content) = false := quoted_not_mem (by decide) content
  have hlogical : isLogicalOperator (quoted content) = false := by
    rw [isLogicalOperator, sameWord_quoted (by decide), sameWord_quoted (by decide)]
    rfl
  have hoperator : isOperator (quoted content) = false := quoted_not_mem (by decide) content
  have hnumeral : Decimal.isNumeral (quoted content) = false :=
    isNumeral_eq_false (Fragment.toList_quoted content) (by decide) (by decide)
  simp [classify, hkeyword, hsymbol, hlogical, hoperator, hnumeral, isLiteral_quoted]

/-- The token that a literal is. -/
def ofContent (content : List Char) : Token :=
  ⟨.string, quoted content⟩

theorem ofFragment_quoted (content : List Char) :
    ofFragment (quoted content) = .ok (ofContent content) := by
  rw [ofFragment, classify_quoted]
  rfl

theorem parallel_mapM_ofFragment {contents : Contents} {fs gs : List String}
    (h : Each (EqualBut quoted) contents fs gs) :
    Parallel Eq (Each (EqualBut ofContent) contents) (fs.mapM ofFragment) (gs.mapM ofFragment) := by
  induction h with
  | nil => exact .ok .nil
  | cons hfirst _ ih =>
      rw [List.mapM_cons, List.mapM_cons]
      cases hfirst with
      | same fragment =>
          refine Parallel.bind (.refl (F := Eq) (R := Eq) (fun _ => rfl) (fun _ => rfl) _) ?_
          rintro token _ rfl
          exact ih.bind fun _ _ hmore => .ok (.cons_same token hmore)
      | differ a b =>
          rw [ofFragment_quoted, ofFragment_quoted]
          exact ih.bind fun _ _ hmore => .ok (.cons_differ a b hmore)

/-- Texts that differ inside literals are cut into tokens that differ in these literals,
each in its own place with its own contents. -/
theorem parallel_ofText {contents : Contents} {s t : String}
    (h : Fragment.DifferInside contents s.toList t.toList) :
    Parallel Eq (Each (EqualBut ofContent) contents) (ofText s) (ofText t) :=
  (Fragment.parallel_ofText h).bind fun _ _ hfragments => parallel_mapM_ofFragment hfragments

end Token

end TextTables
