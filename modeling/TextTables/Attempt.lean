import TextTables.Fault

/-!
# Attempts

An attempt works on a state and may fail.  What it did to the state before it
failed is kept: an attempt answers with the state that it reached either way.
-/

namespace TextTables

/-- A computation on a state that may fail and keeps the state it reached. -/
def Attempt (σ α : Type) : Type :=
  σ → Except Fault α × σ

namespace Attempt

variable {σ α β : Type}

/-- Runs an attempt from a state: its answer, and the state it reached. -/
def run (attempt : Attempt σ α) (s : σ) : Except Fault α × σ :=
  attempt s

/-- Goes on with the answer of an attempt, unless it failed. -/
def andThen (attempt : Attempt σ α) (next : α → Attempt σ β) : Attempt σ β :=
  fun s =>
    match attempt s with
    | (.ok a, reached) => next a reached
    | (.error fault, reached) => (.error fault, reached)

instance : Monad (Attempt σ) where
  pure a := fun s => (.ok a, s)
  bind := andThen

/-- Fails and leaves the state alone. -/
def fail (fault : Fault) : Attempt σ α :=
  fun s => (.error fault, s)

/-- The state. -/
def state : Attempt σ σ :=
  fun s => (.ok s, s)

/-- Changes the state. -/
def modify (f : σ → σ) : Attempt σ Unit :=
  fun s => (.ok (), f s)

/-- Takes over an answer that was found without the state. -/
def ofExcept (answer : Except Fault α) : Attempt σ α :=
  fun s => (answer, s)

@[simp] theorem run_pure (a : α) (s : σ) :
    (pure a : Attempt σ α).run s = (.ok a, s) := rfl

@[simp] theorem run_fail (fault : Fault) (s : σ) :
    (fail fault : Attempt σ α).run s = (.error fault, s) := rfl

@[simp] theorem run_state (s : σ) : (state : Attempt σ σ).run s = (.ok s, s) := rfl

@[simp] theorem run_modify (f : σ → σ) (s : σ) :
    (modify f).run s = (.ok (), f s) := rfl

@[simp] theorem run_ofExcept (answer : Except Fault α) (s : σ) :
    (ofExcept answer : Attempt σ α).run s = (answer, s) := rfl

theorem run_bind (attempt : Attempt σ α) (next : α → Attempt σ β) (s : σ) :
    (attempt >>= next).run s =
      match attempt.run s with
      | (.ok a, reached) => (next a).run reached
      | (.error fault, reached) => (.error fault, reached) := rfl

/-- Two attempts in a row succeed exactly if the first one does and the second one
does from the state that the first one reached. -/
theorem run_bind_eq_ok {attempt : Attempt σ α} {next : α → Attempt σ β}
    {s t : σ} {b : β} :
    (attempt >>= next).run s = (.ok b, t) ↔
      ∃ a reached, attempt.run s = (.ok a, reached) ∧
        (next a).run reached = (.ok b, t) := by
  rw [run_bind]
  constructor
  · intro h
    split at h
    · next a reached hfirst => exact ⟨a, reached, hfirst, h⟩
    · cases h
  · rintro ⟨a, reached, hfirst, hsecond⟩
    rw [hfirst]
    exact hsecond

theorem ext {x y : Attempt σ α} (h : ∀ s, x.run s = y.run s) : x = y :=
  funext h

theorem id_map_eq (x : Attempt σ α) : id <$> x = x := by
  apply ext
  intro s
  change (x >>= pure).run s = x.run s
  rw [run_bind]
  split
  · next h => rw [h, run_pure]
  · next h => rw [h]

theorem bind_assoc_eq {γ : Type} (x : Attempt σ α) (f : α → Attempt σ β)
    (g : β → Attempt σ γ) :
    x >>= f >>= g = x >>= fun a => f a >>= g := by
  apply ext
  intro s
  rw [run_bind, run_bind, run_bind]
  cases x.run s with
  | mk answer reached =>
      cases answer with
      | error fault => rfl
      | ok a => rfl

instance : LawfulMonad (Attempt σ) :=
  LawfulMonad.mk' (Attempt σ) id_map_eq (fun _ _ => rfl) bind_assoc_eq

end Attempt

end TextTables
