import TextTables.Proofs.Attempt
import TextTables.Proofs.Text.Words

/-!
# Accesses that have to be in range

A strict computation has no result once it accesses what is not there: a place behind the end
of a list, a part of a list that ends before it begins, a part of a text that begins or ends
inside a character.  `Follows` says that a strict attempt does have a result, and the same one
as an attempt that leaves out the checks.
-/

namespace TextTables.Strict

variable {σ α β : Type}

/-! ## Accesses -/

/-- A list with the entry at a place replaced. -/
def set? (entries : List α) (place : Nat) (entry : α) : Option (List α) :=
  if place < entries.length then some (entries.set place entry) else none

/-- A list with the entry at a place taken out. -/
def remove? (entries : List α) (place : Nat) : Option (List α) :=
  if place < entries.length then some (entries.eraseIdx place) else none

/-- The part of a list from one place to another. -/
def slice? (entries : List α) (start stop : Nat) : Option (List α) :=
  if start ≤ stop ∧ stop ≤ entries.length then some ((entries.take stop).drop start) else none

/-- Splits characters after a number of bytes in UTF-8. -/
def splitAtByte? : Nat → List Char → Option (List Char × List Char)
  | 0, cs => some ([], cs)
  | _ + 1, [] => none
  | place + 1, c :: rest =>
    if c.utf8Size ≤ place + 1 then do
      let (before, behind) ← splitAtByte? (place + 1 - c.utf8Size) rest
      return (c :: before, behind)
    else
      none

/-- The part of a text from one byte to another. -/
def sliceBytes? (cs : List Char) (start stop : Nat) : Option (List Char) :=
  if start ≤ stop then do
    let parts ← splitAtByte? start cs
    (splitAtByte? (stop - start) parts.2).map Prod.fst
  else
    none

theorem set?_eq_some {entries : List α} {place : Nat} (h : place < entries.length) (entry : α) :
    set? entries place entry = some (entries.set place entry) :=
  if_pos h

theorem remove?_eq_some {entries : List α} {place : Nat} (h : place < entries.length) :
    remove? entries place = some (entries.eraseIdx place) :=
  if_pos h

theorem slice?_of_append (before inside behind : List α) :
    slice? (before ++ inside ++ behind) before.length (before ++ inside).length = some inside := by
  have hrange : before.length ≤ (before ++ inside).length ∧
      (before ++ inside).length ≤ (before ++ inside ++ behind).length := by
    simp only [List.length_append]
    omega
  rw [slice?, if_pos hrange, List.take_left, List.drop_left]

theorem splitAtByte?_of_append (before behind : List Char) :
    splitAtByte? (String.utf8Len before) (before ++ behind) = some (before, behind) := by
  induction before with
  | nil => cases behind <;> rfl
  | cons c rest ih =>
      obtain ⟨size, hsize⟩ := Nat.exists_eq_add_of_lt c.utf8Size_pos
      rw [Nat.zero_add] at hsize
      have hplace : String.utf8Len (c :: rest) = String.utf8Len rest + size + 1 := by
        rw [String.utf8Len_cons, hsize, Nat.add_assoc]
      have hwithin : c.utf8Size ≤ String.utf8Len rest + size + 1 := by omega
      have hleft : String.utf8Len rest + size + 1 - c.utf8Size = String.utf8Len rest := by omega
      rw [hplace, List.cons_append, splitAtByte?, if_pos hwithin, hleft, ih]
      rfl

theorem sliceBytes?_of_append (before inside behind : List Char) :
    sliceBytes? (before ++ inside ++ behind) (String.utf8Len before)
      (String.utf8Len (before ++ inside)) = some inside := by
  rw [sliceBytes?, String.utf8Len_append, if_pos (Nat.le_add_right _ _), Nat.add_sub_cancel_left,
    List.append_assoc, splitAtByte?_of_append, Option.bind_eq_bind, Option.bind_some,
    splitAtByte?_of_append, Option.map_some]

/-- A traversal in which every access is in range. -/
theorem mapM_eq_some_map {f : α → Option β} {g : α → β} {entries : List α}
    (h : ∀ entry ∈ entries, f entry = some (g entry)) :
    entries.mapM f = some (entries.map g) := by
  induction entries with
  | nil => rfl
  | cons first rest ih =>
      obtain ⟨hfirst, hrest⟩ := List.forall_mem_cons.mp h
      rw [List.mapM_cons, hfirst, ih hrest]
      rfl

/-! ## Answers -/

/-- An answer that is found with strict accesses. -/
abbrev Answer (α : Type) := ExceptT Fault Option α

theorem run_liftM_bind (a : α) (next : α → Answer β) :
    (liftM (some a) >>= next).run = (next a).run := rfl

theorem run_bind_eq_some {answer : Answer α} {plain : Except Fault α} {next : α → Answer β}
    {plainNext : α → Except Fault β} (hanswer : answer.run = some plain)
    (hnext : ∀ a, plain = .ok a → (next a).run = some (plainNext a)) :
    (answer >>= next).run = some (plain >>= plainNext) := by
  rw [ExceptT.run_bind, hanswer]
  cases plain with
  | error fault => rfl
  | ok a => exact hnext a rfl

theorem run_mapM_eq_some {f : α → Answer β} {g : α → Except Fault β} {items : List α}
    (h : ∀ item ∈ items, (f item).run = some (g item)) :
    (items.mapM f).run = some (items.mapM g) := by
  induction items with
  | nil => rfl
  | cons first rest ih =>
      obtain ⟨hfirst, hrest⟩ := List.forall_mem_cons.mp h
      rw [List.mapM_cons, List.mapM_cons]
      refine run_bind_eq_some hfirst fun b _ => ?_
      exact run_bind_eq_some (ih hrest) fun _ _ => rfl

end Strict

/-! ## Attempts -/

/-- An attempt with strict accesses. -/
abbrev Strict (σ α : Type) := ExceptT Fault (StateT σ Option) α

namespace Strict

variable {σ α β : Type}

/-- An attempt that accesses nothing. -/
def ofAttempt (attempt : Attempt σ α) : Strict σ α :=
  ExceptT.mk fun s => some (attempt.run s)

instance : MonadLift (Attempt σ) (ExceptT Fault (StateT σ Option)) :=
  ⟨ofAttempt⟩

/-- An answer that is found without the state. -/
instance : MonadLift (ExceptT Fault Option) (ExceptT Fault (StateT σ Option)) where
  monadLift answer := ExceptT.mk fun s => answer.run.map fun found => (found, s)

/-- In states with the invariant a strict attempt does what an attempt does, which keeps the
invariant. -/
def Follows (I : σ → Prop) (strict : Strict σ α) (attempt : Attempt σ α) : Prop :=
  ∀ s, I s → strict.run.run s = some (attempt.run s) ∧ I (attempt.run s).2

section

variable {I : σ → Prop} {strict : Strict σ α} {attempt : Attempt σ α}

theorem run_attempt (attempt : Attempt σ α) (s : σ) :
    (liftM attempt : Strict σ α).run.run s = some (attempt.run s) := rfl

theorem run_answer (answer : Answer α) (s : σ) :
    (liftM answer : Strict σ α).run.run s = answer.run.map fun found => (found, s) := rfl

theorem run_bind (strict : Strict σ α) (next : α → Strict σ β) (s : σ) :
    (strict >>= next).run.run s =
      (strict.run.run s).bind fun
        | (.ok a, reached) => (next a).run.run reached
        | (.error fault, reached) => some (.error fault, reached) := by
  rw [ExceptT.run_bind, StateT.run_bind, Option.bind_eq_bind]
  congr 1
  funext result
  obtain ⟨fault | a, reached⟩ := result
  · rfl
  · rfl

theorem Follows.bind {next : α → Strict σ β} {plainNext : α → Attempt σ β}
    (hfirst : Follows I strict attempt) (hnext : ∀ a, Follows I (next a) (plainNext a)) :
    Follows I (strict >>= next) (attempt >>= plainNext) := by
  intro s hs
  obtain ⟨hrun, hreached⟩ := hfirst s hs
  rw [run_bind, hrun, Attempt.run_bind, Option.bind_some]
  cases hresult : attempt.run s with
  | mk answer reached =>
      rw [hresult] at hreached
      cases answer with
      | error fault => exact ⟨rfl, hreached⟩
      | ok a => exact hnext a reached hreached

theorem follows_of_preserves (h : attempt.Preserves I) :
    Follows I (liftM attempt) attempt :=
  fun s hs => ⟨rfl, h s hs⟩

theorem follows_pure (a : α) : Follows I (pure a) (pure a) :=
  fun _ hs => ⟨rfl, hs⟩

theorem follows_ofExcept {answer : Answer α} {plain : Except Fault α}
    (h : answer.run = some plain) : Follows I (liftM answer) (Attempt.ofExcept plain) := by
  intro s hs
  refine ⟨?_, hs⟩
  rw [run_answer, h]
  rfl

end

end Strict

end TextTables
