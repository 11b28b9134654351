import TextTables.Dict

/-!
# Looking up in a changed dictionary

What `get?` finds after an entry was put in or taken out, for lists of entries
and for dictionaries, and how both commute with a function that is applied to
every value.
-/

namespace TextTables

variable {α β : Type}

namespace Assoc

theorem get?_insert (key wanted : String) (value : α) (entries : List (String × α)) :
    get? (insert key value entries) wanted =
      if wanted = key then some value else get? entries wanted := by
  induction entries with
  | nil => rfl
  | cons head rest ih =>
      obtain ⟨other, old⟩ := head
      simp only [insert]
      split
      · next heq =>
          subst heq
          by_cases hwanted : wanted = key
          · simp only [get?, if_pos hwanted]
          · simp only [get?, if_neg hwanted]
      · next hne =>
          split
          · rfl
          · simp only [get?, ih]
            by_cases hother : wanted = other
            · have hkey : wanted ≠ key := fun h => hne (h.symm.trans hother)
              rw [if_pos hother, if_neg hkey, if_pos hother]
            · rw [if_neg hother, if_neg hother]

theorem get?_erase (key wanted : String) (entries : List (String × α)) :
    get? (erase key entries) wanted =
      if wanted = key then none else get? entries wanted := by
  induction entries with
  | nil => simp [erase, get?]
  | cons head rest ih =>
      obtain ⟨other, old⟩ := head
      by_cases hother : other = key
      · have hgone : erase key ((other, old) :: rest) = erase key rest := by
          simp [erase, hother]
        rw [hgone, ih]
        by_cases hwanted : wanted = key
        · rw [if_pos hwanted, if_pos hwanted]
        · have hne : wanted ≠ other := fun h => hwanted (h.trans hother)
          simp only [get?, if_neg hwanted, if_neg hne]
      · have hstays : erase key ((other, old) :: rest) = (other, old) :: erase key rest := by
          simp [erase, hother]
        rw [hstays]
        simp only [get?, ih]
        by_cases hwanted : wanted = other
        · have hne : wanted ≠ key := fun h => hother (hwanted.symm.trans h)
          rw [if_pos hwanted, if_neg hne, if_pos hwanted]
        · rw [if_neg hwanted, if_neg hwanted]

theorem erase_insert (key : String) (value : α) (entries : List (String × α)) :
    erase key (insert key value entries) = erase key entries := by
  induction entries with
  | nil => simp [insert, erase]
  | cons head rest ih =>
      obtain ⟨other, old⟩ := head
      simp only [insert]
      split
      · next heq => simp [erase, heq]
      · split
        · simp [erase]
        · have hcons : ∀ more : List (String × α), erase key ((other, old) :: more) =
              erase key [(other, old)] ++ erase key more :=
            fun more => List.filter_append [(other, old)] more
          rw [hcons, hcons rest, ih]

/-- Of two values put under a key, the second one stays. -/
theorem insert_insert (key : String) (first second : α) (entries : List (String × α)) :
    insert key second (insert key first entries) = insert key second entries := by
  induction entries with
  | nil => simp [insert]
  | cons head rest ih =>
      obtain ⟨other, old⟩ := head
      by_cases heq : key = other
      · simp [insert, heq]
      · by_cases hlt : key < other
        · simp [insert, heq, hlt]
        · simp [insert, heq, hlt, ih]

theorem mem_of_get?_eq_some {key : String} {value : α} {entries : List (String × α)}
    (h : get? entries key = some value) : (key, value) ∈ entries := by
  induction entries with
  | nil => cases h
  | cons head rest ih =>
      obtain ⟨other, old⟩ := head
      simp only [get?] at h
      split at h
      · next heq =>
          cases h
          rw [heq]
          exact List.mem_cons_self
      · exact List.mem_cons_of_mem _ (ih h)

/-- In order, no key stands twice, so every entry is the one that is found. -/
theorem Sorted.get?_eq_some {key : String} {value : α} {entries : List (String × α)}
    (hsorted : Sorted entries) (h : (key, value) ∈ entries) :
    get? entries key = some value := by
  induction entries with
  | nil => cases h
  | cons head rest ih =>
      obtain ⟨other, old⟩ := head
      obtain ⟨hhead, hrest⟩ := List.pairwise_cons.mp hsorted
      simp only [get?]
      rcases List.mem_cons.mp h with heq | hmem
      · cases heq
        exact if_pos rfl
      · have hlt : other < key := hhead (key, value) hmem
        have hne : key ≠ other := fun heq => String.lt_irrefl key (heq ▸ hlt)
        rw [if_neg hne]
        exact ih hrest hmem

/-- In order, the value under a key is put back where it was. -/
theorem Sorted.insert_self {key : String} {value : α} {entries : List (String × α)}
    (hsorted : Sorted entries) (h : get? entries key = some value) :
    Assoc.insert key value entries = entries := by
  induction entries with
  | nil => cases h
  | cons head rest ih =>
      obtain ⟨other, old⟩ := head
      obtain ⟨hhead, hrest⟩ := List.pairwise_cons.mp hsorted
      simp only [get?] at h
      simp only [Assoc.insert]
      by_cases heq : key = other
      · rw [if_pos heq] at h ⊢
        cases h
        rw [heq]
      · rw [if_neg heq] at h ⊢
        have hlt : other < key := hhead (key, value) (mem_of_get?_eq_some h)
        rw [if_neg (String.lt_asymm hlt), ih hrest h]

/-- Entries with a function applied to each value. -/
def mapValues (f : α → β) (entries : List (String × α)) : List (String × β) :=
  entries.map fun entry => (entry.1, f entry.2)

theorem get?_mapValues (f : α → β) (entries : List (String × α)) (key : String) :
    get? (mapValues f entries) key = (get? entries key).map f := by
  induction entries with
  | nil => rfl
  | cons head rest ih =>
      obtain ⟨other, old⟩ := head
      by_cases h : key = other
      · simp [mapValues, get?, h]
      · simpa [mapValues, get?, h] using ih

theorem mapValues_insert (f : α → β) (key : String) (value : α)
    (entries : List (String × α)) :
    mapValues f (insert key value entries) = insert key (f value) (mapValues f entries) := by
  induction entries with
  | nil => rfl
  | cons head rest ih =>
      obtain ⟨other, old⟩ := head
      simp only [insert, mapValues, List.map_cons]
      split
      · rfl
      · split
        · rfl
        · exact congrArg _ ih

theorem mapValues_erase (f : α → β) (key : String) (entries : List (String × α)) :
    mapValues f (erase key entries) = erase key (mapValues f entries) := by
  simp only [mapValues, erase, List.filter_map]
  rfl

theorem Sorted.mapValues {f : α → β} {entries : List (String × α)}
    (h : Sorted entries) : Sorted (mapValues f entries) :=
  List.pairwise_map.mpr h

end Assoc

namespace Dict

theorem eq_of_entries_eq {d e : Dict α} (h : d.entries = e.entries) : d = e := by
  cases d
  cases e
  cases h
  rfl

theorem get?_insert (d : Dict α) (key wanted : String) (value : α) :
    (d.insert key value).get? wanted = if wanted = key then some value else d.get? wanted :=
  Assoc.get?_insert key wanted value d.entries

theorem get?_erase (d : Dict α) (key wanted : String) :
    (d.erase key).get? wanted = if wanted = key then none else d.get? wanted :=
  Assoc.get?_erase key wanted d.entries

theorem insert_insert (d : Dict α) (key : String) (first second : α) :
    (d.insert key first).insert key second = d.insert key second :=
  eq_of_entries_eq (Assoc.insert_insert key first second d.entries)

theorem insert_self {d : Dict α} {key : String} {value : α} (h : d.get? key = some value) :
    d.insert key value = d :=
  eq_of_entries_eq (d.sorted.insert_self h)

@[simp] theorem get?_insert_self (d : Dict α) (key : String) (value : α) :
    (d.insert key value).get? key = some value := by
  rw [get?_insert, if_pos rfl]

theorem mem_entries_iff {d : Dict α} {key : String} {value : α} :
    (key, value) ∈ d.entries ↔ d.get? key = some value :=
  ⟨d.sorted.get?_eq_some, Assoc.mem_of_get?_eq_some⟩

theorem contains_iff {d : Dict α} {key : String} :
    d.contains key = true ↔ ∃ value, d.get? key = some value :=
  Option.isSome_iff_exists

/-! ## Keys -/

theorem contains_insert (d : Dict α) (key wanted : String) (value : α) :
    (d.insert key value).contains wanted = (wanted == key || d.contains wanted) := by
  rw [contains, get?_insert, contains]
  by_cases h : wanted = key
  · simp [h]
  · simp [h]

theorem contains_erase (d : Dict α) (key wanted : String) :
    (d.erase key).contains wanted = (wanted != key && d.contains wanted) := by
  rw [contains, get?_erase, contains]
  by_cases h : wanted = key
  · simp [h]
  · simp [h]

/-- Names that are the keys of a dictionary, each once, in any order. -/
structure ListedBy (d : Dict α) (names : List String) : Prop where
  nodup : names.Nodup
  mem_iff : ∀ name, name ∈ names ↔ d.contains name = true

theorem listedBy_keys (d : Dict α) : d.ListedBy d.keys where
  nodup := by
    rw [keys, List.Nodup, List.pairwise_map]
    refine d.sorted.imp ?_
    intro first second hlt heq
    rw [heq] at hlt
    exact String.lt_irrefl second.1 hlt
  mem_iff := by
    intro name
    rw [keys, List.mem_map, contains_iff]
    constructor
    · rintro ⟨⟨key, value⟩, hmem, rfl⟩
      exact ⟨value, mem_entries_iff.mp hmem⟩
    · rintro ⟨value, hvalue⟩
      exact ⟨(name, value), mem_entries_iff.mpr hvalue, rfl⟩

namespace ListedBy

variable {d : Dict α} {names : List String} {key : String}

theorem insert_old (h : d.ListedBy names) (hold : d.contains key = true) (value : α) :
    (d.insert key value).ListedBy names where
  nodup := h.nodup
  mem_iff := by
    intro name
    rw [h.mem_iff, contains_insert, Bool.or_eq_true, beq_iff_eq]
    constructor
    · exact Or.inr
    · rintro (rfl | hname)
      · exact hold
      · exact hname

theorem insert_new (h : d.ListedBy names) (hnew : d.contains key = false) (value : α) :
    (d.insert key value).ListedBy (names ++ [key]) where
  nodup := by
    have hkey : key ∉ names := by
      rw [h.mem_iff, hnew]
      exact Bool.false_ne_true
    rw [List.nodup_append]
    refine ⟨h.nodup, List.pairwise_singleton _ key, ?_⟩
    intro name hname other hother heq
    rw [heq, List.mem_singleton.mp hother] at hname
    exact hkey hname
  mem_iff := by
    intro name
    rw [List.mem_append, List.mem_singleton, h.mem_iff, contains_insert, Bool.or_eq_true,
      beq_iff_eq]
    exact or_comm

theorem erase (h : d.ListedBy names) (key : String) :
    (d.erase key).ListedBy (names.filter (· != key)) where
  nodup := h.nodup.filter _
  mem_iff := by
    intro name
    rw [List.mem_filter, h.mem_iff, contains_erase, Bool.and_eq_true]
    exact and_comm

end ListedBy

/-! ## Functions on values -/

/-- A dictionary with a function applied to each value. -/
def mapValues (f : α → β) (d : Dict α) : Dict β :=
  ⟨Assoc.mapValues f d.entries, d.sorted.mapValues⟩

@[simp] theorem mapValues_empty (f : α → β) : (empty : Dict α).mapValues f = empty := rfl

@[simp] theorem get?_mapValues (f : α → β) (d : Dict α) (key : String) :
    (d.mapValues f).get? key = (d.get? key).map f :=
  Assoc.get?_mapValues f d.entries key

@[simp] theorem contains_mapValues (f : α → β) (d : Dict α) (key : String) :
    (d.mapValues f).contains key = d.contains key := by
  simp [contains]

theorem mapValues_insert (f : α → β) (d : Dict α) (key : String) (value : α) :
    (d.insert key value).mapValues f = (d.mapValues f).insert key (f value) :=
  eq_of_entries_eq (Assoc.mapValues_insert f key value d.entries)

theorem mapValues_erase (f : α → β) (d : Dict α) (key : String) :
    (d.erase key).mapValues f = (d.mapValues f).erase key :=
  eq_of_entries_eq (Assoc.mapValues_erase f key d.entries)

end Dict

end TextTables
