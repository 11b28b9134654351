import TextTables.Attempt

/-!
# Reasoning about attempts

Three things are said about an attempt: that it changes nothing, that it changes
nothing when it fails, and what holds of its answer and of the state it reaches
when it succeeds.  Each comes with the rules that carry it through a sequence, so
an attempt is treated in the order in which it is written.
-/

namespace TextTables

variable {σ α β : Type}

theorem ok_bind {ε : Type} (a : α) (next : α → Except ε β) :
    (Except.ok a >>= next) = next a := rfl

/-- Two answers in a row are one if there is a first one and a second one. -/
theorem exists_of_bind_eq_ok {ε : Type} {answer : Except ε α} {next : α → Except ε β} {b : β}
    (h : answer >>= next = .ok b) : ∃ a, answer = .ok a ∧ next a = .ok b := by
  cases answer with
  | error fault => cases h
  | ok a => exact ⟨a, rfl, h⟩

theorem exists_of_map_eq_ok {ε : Type} {answer : Except ε α} {f : α → β} {b : β}
    (h : answer.map f = .ok b) : ∃ a, answer = .ok a ∧ f a = b := by
  cases answer with
  | error fault => cases h
  | ok a =>
      cases h
      exact ⟨a, rfl, rfl⟩

/-- Every answer of a traversal is the answer for one of the items. -/
theorem exists_mem_of_mem_mapM {f : α → Except Fault β} {items : List α} {answers : List β}
    (h : items.mapM f = .ok answers) {b : β} (hb : b ∈ answers) :
    ∃ a ∈ items, f a = .ok b := by
  induction items generalizing answers with
  | nil =>
      cases h
      cases hb
  | cons first rest ih =>
      rw [List.mapM_cons] at h
      obtain ⟨b', hfirst, h⟩ := exists_of_bind_eq_ok h
      obtain ⟨more, hrest, h⟩ := exists_of_bind_eq_ok h
      cases h
      rcases List.mem_cons.mp hb with rfl | hmore
      · exact ⟨first, List.mem_cons_self, hfirst⟩
      · obtain ⟨a, ha, hfa⟩ := ih hrest hmore
        exact ⟨a, List.mem_cons_of_mem _ ha, hfa⟩

/-- A traversal in which every answer is the image of another one answers with the images. -/
theorem mapM_eq_map_mapM {γ : Type} {f : α → Except Fault β} {g : α → Except Fault γ} {v : β → γ}
    {items : List α} (h : ∀ item ∈ items, g item = (f item).map v) :
    items.mapM g = (items.mapM f).map (List.map v) := by
  induction items with
  | nil => rfl
  | cons first rest ih =>
      obtain ⟨hfirst, hrest⟩ := List.forall_mem_cons.mp h
      rw [List.mapM_cons, List.mapM_cons, hfirst, ih hrest]
      cases f first with
      | error fault => rfl
      | ok b =>
          cases rest.mapM f with
          | error fault => rfl
          | ok more => rfl

/-! ## Answers without their faults -/

theorem toOption_bind {ε : Type} (answer : Except ε α) (next : α → Except ε β) :
    (answer >>= next).toOption = answer.toOption.bind fun a => (next a).toOption := by
  cases answer with
  | error fault => rfl
  | ok a => rfl

theorem toOption_map {ε : Type} (answer : Except ε α) (f : α → β) :
    (answer.map f).toOption = answer.toOption.map f := by
  cases answer with
  | error fault => rfl
  | ok a => rfl

/-- A traversal of the images of items answers with the images of the answers. -/
theorem toOption_mapM_map {γ δ : Type} {f : α → Except Fault β} {image : γ → Except Fault δ}
    {u : α → γ} {v : β → δ} (h : ∀ a, (image (u a)).toOption = (f a).toOption.map v)
    (items : List α) :
    ((items.map u).mapM image).toOption = (items.mapM f).toOption.map (List.map v) := by
  induction items with
  | nil => rfl
  | cons first rest ih =>
      rw [List.map_cons, List.mapM_cons, List.mapM_cons, toOption_bind, toOption_bind, h]
      simp only [toOption_bind, ih]
      cases (f first).toOption with
      | none => rfl
      | some b =>
          cases (rest.mapM f).toOption with
          | none => rfl
          | some more => rfl

/-! ## What an answer satisfies -/

/-- An answer with `Q`, or a fault with `F`. -/
inductive Satisfies (F : Fault → Prop) (Q : α → Prop) : Except Fault α → Prop
  | ok {a : α} (h : Q a) : Satisfies F Q (.ok a)
  | error {fault : Fault} (h : F fault) : Satisfies F Q (.error fault)

namespace Satisfies

variable {F : Fault → Prop} {Q : α → Prop} {R : β → Prop} {answer : Except Fault α}

theorem of_eq_ok {a : α} (h : Satisfies F Q answer) (hok : answer = .ok a) : Q a := by
  rw [hok] at h
  obtain ⟨ha⟩ | _ := h
  exact ha

theorem of_eq_error {fault : Fault} (h : Satisfies F Q answer) (herror : answer = .error fault) :
    F fault := by
  rw [herror] at h
  obtain _ | ⟨hfault⟩ := h
  exact hfault

theorem mono {Q' : α → Prop} (h : Satisfies F Q answer) (himp : ∀ a, Q a → Q' a) :
    Satisfies F Q' answer := by
  cases h with
  | ok ha => exact .ok (himp _ ha)
  | error hfault => exact .error hfault

/-- More may be known of the answer, if there is one. -/
theorem of_forall_ok {Q' : α → Prop} (h : Satisfies F Q answer)
    (hok : ∀ a, answer = .ok a → Q' a) : Satisfies F Q' answer := by
  cases h with
  | ok ha => exact .ok (hok _ rfl)
  | error hfault => exact .error hfault

theorem bind {next : α → Except Fault β} (h : Satisfies F Q answer)
    (hnext : ∀ a, Q a → Satisfies F R (next a)) : Satisfies F R (answer >>= next) := by
  cases h with
  | ok ha => exact hnext _ ha
  | error hfault => exact .error hfault

theorem map {f : α → β} (h : Satisfies F Q answer) (hf : ∀ a, Q a → R (f a)) :
    Satisfies F R (answer.map f) := by
  cases h with
  | ok ha => exact .ok (hf _ ha)
  | error hfault => exact .error hfault

theorem mapM {f : α → Except Fault β} {items : List α}
    (h : ∀ item ∈ items, Satisfies F R (f item)) :
    Satisfies F (fun found => ∀ b ∈ found, R b) (items.mapM f) := by
  induction items with
  | nil => exact .ok fun b hb => by cases hb
  | cons first rest ih =>
      rw [List.mapM_cons]
      refine (h first List.mem_cons_self).bind fun b hb => ?_
      refine (ih fun item hitem => h item (List.mem_cons_of_mem _ hitem)).bind fun more hmore => ?_
      exact .ok (List.forall_mem_cons.mpr ⟨hb, hmore⟩)

end Satisfies

namespace Attempt

theorem run_state_bind (next : σ → Attempt σ β) (s : σ) :
    (state >>= next).run s = (next s).run s := rfl

theorem ofExcept_map_bind {γ : Type} (answer : Except Fault γ) (f : γ → α)
    (next : α → Attempt σ β) :
    ofExcept (answer.map f) >>= next = ofExcept answer >>= fun a => next (f a) := by
  cases answer with
  | error fault => rfl
  | ok a => rfl

theorem run_map (f : α → β) (attempt : Attempt σ α) (s : σ) :
    (f <$> attempt).run s = (attempt.run s).map (Except.map f) id := by
  change (attempt >>= fun a => pure (f a)).run s = _
  rw [run_bind]
  cases attempt.run s with
  | mk answer reached =>
      cases answer with
      | error fault => rfl
      | ok a => rfl

theorem map_ofExcept (f : α → β) (answer : Except Fault α) :
    f <$> (ofExcept answer : Attempt σ α) = ofExcept (answer.map f) := by
  cases answer with
  | error fault => rfl
  | ok a => rfl

/-! ## What an attempt leaves alone -/

/-- The state may be looked at, but is never changed. -/
def ReadOnly (attempt : Attempt σ α) : Prop :=
  ∀ s, (attempt.run s).2 = s

/-- A failure leaves the state as it was. -/
def Atomic (attempt : Attempt σ α) : Prop :=
  ∀ s fault, (attempt.run s).1 = .error fault → (attempt.run s).2 = s

/-- There is nothing to fail. -/
def Infallible (attempt : Attempt σ α) : Prop :=
  ∀ s fault, (attempt.run s).1 ≠ .error fault

theorem readOnly_pure (a : α) : ReadOnly (pure a : Attempt σ α) :=
  fun _ => rfl

theorem readOnly_fail (fault : Fault) : ReadOnly (fail fault : Attempt σ α) :=
  fun _ => rfl

theorem readOnly_state : ReadOnly (state : Attempt σ σ) :=
  fun _ => rfl

theorem readOnly_ofExcept (answer : Except Fault α) :
    ReadOnly (ofExcept answer : Attempt σ α) :=
  fun _ => rfl

theorem infallible_pure (a : α) : Infallible (pure a : Attempt σ α) := by
  intro s fault h
  cases h

theorem infallible_modify (f : σ → σ) : Infallible (modify f) := by
  intro s fault h
  cases h

theorem ReadOnly.atomic {attempt : Attempt σ α} (h : attempt.ReadOnly) :
    attempt.Atomic :=
  fun s _ _ => h s

theorem ReadOnly.bind {attempt : Attempt σ α} {next : α → Attempt σ β}
    (hfirst : attempt.ReadOnly) (hnext : ∀ a, (next a).ReadOnly) :
    (attempt >>= next).ReadOnly := by
  intro s
  have hs := hfirst s
  rw [run_bind]
  split
  · next a reached heq =>
      rw [heq] at hs
      rw [hnext a reached]
      exact hs
  · next fault reached heq =>
      rw [heq] at hs
      exact hs

theorem ReadOnly.state_eq {attempt : Attempt σ α} (h : attempt.ReadOnly) {s t : σ}
    {answer : Except Fault α} (hrun : attempt.run s = (answer, t)) : t = s := by
  have hs := h s
  rwa [hrun] at hs

/-- What comes after reading begins where the reading did. -/
theorem ReadOnly.exists_of_run_bind_eq_ok {attempt : Attempt σ α} {next : α → Attempt σ β}
    (hfirst : attempt.ReadOnly) {s t : σ} {b : β}
    (h : (attempt >>= next).run s = (.ok b, t)) :
    ∃ a, attempt.run s = (.ok a, s) ∧ (next a).run s = (.ok b, t) := by
  obtain ⟨a, reached, hrun, hnext⟩ := run_bind_eq_ok.mp h
  cases hfirst.state_eq hrun
  exact ⟨a, hrun, hnext⟩

/-- What comes after reading may fail as well, as long as it is atomic itself. -/
theorem ReadOnly.bind_atomic {attempt : Attempt σ α} {next : α → Attempt σ β}
    (hfirst : attempt.ReadOnly) (hnext : ∀ a, (next a).Atomic) :
    (attempt >>= next).Atomic := by
  intro s fault h
  have hs := hfirst s
  rw [run_bind] at h ⊢
  split at h
  · next a reached heq =>
      rw [heq] at hs
      rw [hnext a reached fault h]
      exact hs
  · next found reached heq =>
      rw [heq] at hs
      exact hs

/-- What comes after a change must not fail any more. -/
theorem Atomic.bind_infallible {attempt : Attempt σ α} {next : α → Attempt σ β}
    (hfirst : attempt.Atomic) (hnext : ∀ a, (next a).Infallible) :
    (attempt >>= next).Atomic := by
  intro s fault h
  rw [run_bind] at h ⊢
  split at h
  · next a reached heq => exact absurd h (hnext a reached fault)
  · next found reached heq =>
      have hs := hfirst s found
      rw [heq] at hs
      exact hs rfl

/-! ## What survives -/

/-- What holds of the state goes on to hold, however the attempt ends. -/
def Preserves (P : σ → Prop) (attempt : Attempt σ α) : Prop :=
  ∀ s, P s → P (attempt.run s).2

theorem ReadOnly.preserves {P : σ → Prop} {attempt : Attempt σ α} (h : attempt.ReadOnly) :
    attempt.Preserves P := by
  intro s hs
  rw [h s]
  exact hs

theorem Preserves.bind {P : σ → Prop} {attempt : Attempt σ α} {next : α → Attempt σ β}
    (hfirst : attempt.Preserves P) (hnext : ∀ a, (next a).Preserves P) :
    (attempt >>= next).Preserves P := by
  intro s hs
  have hreached := hfirst s hs
  rw [run_bind]
  split
  · next a reached heq =>
      rw [heq] at hreached
      exact hnext a reached hreached
  · next fault reached heq =>
      rw [heq] at hreached
      exact hreached

theorem preserves_modify {P : σ → Prop} {f : σ → σ} (h : ∀ s, P s → P (f s)) :
    (modify f).Preserves P :=
  h

/-! ## What a success says -/

/-- From a state with `P`, an answer and the state reached with it satisfy `Q`. -/
def Ensures (P : σ → Prop) (attempt : Attempt σ α) (Q : α → σ → Prop) : Prop :=
  ∀ s, P s → ∀ a t, attempt.run s = (.ok a, t) → Q a t

theorem ensures_true {P : σ → Prop} {attempt : Attempt σ α} :
    Ensures P attempt fun _ _ => True :=
  fun _ _ _ _ _ => trivial

theorem ensures_pure {P : σ → Prop} {Q : α → σ → Prop} {a : α}
    (h : ∀ s, P s → Q a s) : Ensures P (pure a) Q := by
  intro s hs b t hrun
  cases hrun
  exact h s hs

theorem ensures_ofExcept {P : σ → Prop} {Q : α → σ → Prop} {answer : Except Fault α}
    (h : ∀ a, answer = .ok a → ∀ s, P s → Q a s) : Ensures P (ofExcept answer) Q := by
  intro s hs a t hrun
  obtain ⟨hanswer, rfl⟩ := Prod.mk.inj hrun
  exact h a hanswer s hs

theorem Ensures.bind {P : σ → Prop} {R : α → σ → Prop} {Q : β → σ → Prop}
    {attempt : Attempt σ α} {next : α → Attempt σ β} (hfirst : Ensures P attempt R)
    (hnext : ∀ a, Ensures (R a) (next a) Q) : Ensures P (attempt >>= next) Q := by
  intro s hs b t hrun
  obtain ⟨a, reached, hrunFirst, hrunNext⟩ := run_bind_eq_ok.mp hrun
  exact hnext a reached (hfirst s hs a reached hrunFirst) b t hrunNext

/-! ## Attempts that mirror each other -/

section Mirrors

variable {τ γ δ : Type} {g : σ → τ}

/-- In the state that `g` makes of a state, `image` does what `first` does in that state:
it fails if `first` does, or answers with what `f` makes of the answer, and reaches what
`g` makes of the state reached.  Causes of failures may differ. -/
structure Mirrors (g : σ → τ) (f : α → β) (first : Attempt σ α) (image : Attempt τ β) :
    Prop where
  run_eq : ∀ s, (image.run (g s)).map Except.toOption id =
    (first.run s).map (·.toOption.map f) g

theorem mirrors_pure (f : α → β) (a : α) :
    Mirrors g f (pure a : Attempt σ α) (pure (f a)) where
  run_eq _ := rfl

theorem mirrors_fail {f : α → β} (fault other : Fault) :
    Mirrors g f (fail fault : Attempt σ α) (fail other) where
  run_eq _ := rfl

theorem mirrors_ofExcept {f : α → β} {answer : Except Fault α} {image : Except Fault β}
    (h : image.toOption = answer.toOption.map f) :
    Mirrors g f (ofExcept answer : Attempt σ α) (ofExcept image) where
  run_eq _ := Prod.ext h rfl

theorem mirrors_ofExcept_same (answer : Except Fault α) :
    Mirrors g id (ofExcept answer : Attempt σ α) (ofExcept answer) := by
  apply mirrors_ofExcept
  rw [Option.map_id_fun, id]

theorem mirrors_state_bind {f : α → β} {next : σ → Attempt σ α} {further : τ → Attempt τ β}
    (h : ∀ s, Mirrors g f (next s) (further (g s))) :
    Mirrors g f (state >>= next) (state >>= further) where
  run_eq s := (h s).run_eq s

theorem mirrors_modify {change : σ → σ} {image : τ → τ} (h : ∀ s, image (g s) = g (change s)) :
    Mirrors g id (modify change) (modify image) where
  run_eq s := Prod.ext rfl (h s)

theorem Mirrors.bind {f : α → β} {f' : γ → δ} {first : Attempt σ α} {image : Attempt τ β}
    {next : α → Attempt σ γ} {further : β → Attempt τ δ} (h : Mirrors g f first image)
    (hnext : ∀ a, Mirrors g f' (next a) (further (f a))) :
    Mirrors g f' (first >>= next) (image >>= further) := by
  constructor
  intro s
  have hrun := h.run_eq s
  rw [run_bind, run_bind]
  cases hfirst : first.run s with
  | mk answer reached =>
      cases himage : image.run (g s) with
      | mk other left =>
          rw [hfirst, himage] at hrun
          obtain ⟨hanswer, hleft⟩ := Prod.mk.inj hrun
          cases hleft
          cases answer with
          | error fault =>
              cases other with
              | error cause => rfl
              | ok b => cases hanswer
          | ok a =>
              cases other with
              | error cause => cases hanswer
              | ok b =>
                  cases hanswer
                  exact (hnext a).run_eq reached

theorem mirrors_ite {f : α → β} {c : Prop} [Decidable c] {yes no : Attempt σ α}
    {yes' no' : Attempt τ β} (hyes : Mirrors g f yes yes') (hno : Mirrors g f no no') :
    Mirrors g f (if c then yes else no) (if c then yes' else no') := by
  split
  · exact hyes
  · exact hno

end Mirrors

end Attempt

end TextTables
