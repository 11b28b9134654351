/-!
# Dictionaries

Entries under text keys, kept in the order of the keys.  The order belongs to
the type, so two dictionaries with the same entries are equal, and the keys are
listed in order without sorting.
-/

namespace TextTables

/-! ## Lists of entries in the order of their keys -/

namespace Assoc

/-- Every key stands before all later ones. -/
def Sorted (entries : List (String × α)) : Prop :=
  entries.Pairwise fun a b => a.1 < b.1

/-- The value under a key. -/
def get? : List (String × α) → String → Option α
  | [], _ => none
  | (key, value) :: rest, wanted => if wanted = key then some value else get? rest wanted

/-- Puts a value under a key, in place of any value there. -/
def insert (key : String) (value : α) : List (String × α) → List (String × α)
  | [] => [(key, value)]
  | (other, old) :: rest =>
    if key = other then (key, value) :: rest
    else if key < other then (key, value) :: (other, old) :: rest
    else (other, old) :: insert key value rest

/-- Takes the entry under a key away. -/
def erase (key : String) (entries : List (String × α)) : List (String × α) :=
  entries.filter fun entry => entry.1 != key

theorem fst_eq_or_mem_of_mem_insert {key : String} {value : α}
    {entries : List (String × α)} {entry : String × α}
    (h : entry ∈ insert key value entries) :
    entry.1 = key ∨ entry ∈ entries := by
  induction entries with
  | nil =>
      simp only [insert, List.mem_singleton] at h
      exact Or.inl (by rw [h])
  | cons head rest ih =>
      obtain ⟨other, old⟩ := head
      simp only [insert] at h
      split at h
      · rcases List.mem_cons.mp h with rfl | h
        · exact Or.inl rfl
        · exact Or.inr (List.mem_cons_of_mem _ h)
      · split at h
        · rcases List.mem_cons.mp h with rfl | h
          · exact Or.inl rfl
          · exact Or.inr h
        · rcases List.mem_cons.mp h with rfl | h
          · exact Or.inr List.mem_cons_self
          · rcases ih h with h | h
            · exact Or.inl h
            · exact Or.inr (List.mem_cons_of_mem _ h)

theorem Sorted.insert {key : String} {value : α} {entries : List (String × α)}
    (h : Sorted entries) : Sorted (insert key value entries) := by
  induction entries with
  | nil => simp [Assoc.insert, Sorted]
  | cons head rest ih =>
      obtain ⟨other, old⟩ := head
      obtain ⟨hhead, hrest⟩ := List.pairwise_cons.mp h
      simp only [Assoc.insert]
      split
      · next heq =>
          subst heq
          exact List.pairwise_cons.mpr ⟨hhead, hrest⟩
      · next hne =>
          split
          · next hlt =>
              refine List.pairwise_cons.mpr ⟨?_, h⟩
              intro entry hentry
              rcases List.mem_cons.mp hentry with rfl | hentry
              · exact hlt
              · exact String.lt_trans hlt (hhead entry hentry)
          · next hnlt =>
              refine List.pairwise_cons.mpr ⟨?_, ih hrest⟩
              intro entry hentry
              rcases fst_eq_or_mem_of_mem_insert hentry with hkey | hentry
              · have hle : other ≤ key := String.not_lt.mp hnlt
                rw [hkey]
                refine Decidable.byContradiction fun hnot => hne ?_
                exact String.le_antisymm (String.not_lt.mp hnot) hle
              · exact hhead entry hentry

theorem Sorted.erase {key : String} {entries : List (String × α)}
    (h : Sorted entries) : Sorted (erase key entries) :=
  List.Pairwise.filter _ h

end Assoc

/-! ## The type -/

/-- Values under text keys, in the order of the keys. -/
structure Dict (α : Type) where
  entries : List (String × α)
  sorted : Assoc.Sorted entries

namespace Dict

variable {α : Type}

/-- No entries. -/
def empty : Dict α :=
  ⟨[], List.Pairwise.nil⟩

instance : Inhabited (Dict α) := ⟨empty⟩

/-- The value under a key. -/
def get? (d : Dict α) (key : String) : Option α :=
  Assoc.get? d.entries key

/-- Whether a key has a value. -/
def contains (d : Dict α) (key : String) : Bool :=
  (d.get? key).isSome

/-- Puts a value under a key, in place of any value there. -/
def insert (d : Dict α) (key : String) (value : α) : Dict α :=
  ⟨Assoc.insert key value d.entries, d.sorted.insert⟩

/-- Takes the entry under a key away. -/
def erase (d : Dict α) (key : String) : Dict α :=
  ⟨Assoc.erase key d.entries, d.sorted.erase⟩

/-- The keys, in order. -/
def keys (d : Dict α) : List String :=
  d.entries.map Prod.fst

/-- The number of entries. -/
def size (d : Dict α) : Nat :=
  d.entries.length

end Dict

end TextTables
