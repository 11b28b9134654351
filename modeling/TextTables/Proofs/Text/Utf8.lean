import Mathlib
import TextTables.Text.Utf8

/-!
# ASCII in bytes

An ASCII character is one byte in UTF-8, and that byte stands for nothing else: it is in no
longer sequence.  So an ASCII byte is in the bytes of a text only where its character is in
the text, and reading bytes, however malformed, gives no ASCII character below `@` that was
not among them.
-/

namespace TextTables.Text.Utf8

/-! ## Bytes of a text -/

theorem encode_append (s t : String) : encode (s ++ t) = encode s ++ encode t := by
  rw [encode, String.toUTF8_eq_toByteArray, String.toByteArray_append,
    ByteArray.toList_data_append]
  rfl

theorem encode_inj {s t : String} : encode s = encode t ↔ s = t := by
  constructor
  · intro h
    have harray := ByteArray.ext (Array.toList_inj.mp h)
    rwa [String.toUTF8_eq_toByteArray, String.toUTF8_eq_toByteArray,
      String.toByteArray_inj] at harray
  · rintro rfl
    rfl

theorem encode_join (texts : List String) : encode (String.join texts) = texts.flatMap encode := by
  induction texts with
  | nil => rfl
  | cons text more ih =>
      rw [String.join_cons, encode_append, ih, List.flatMap_cons]

theorem encode_eq_flatMap (s : String) : encode s = s.toList.flatMap String.utf8EncodeChar := by
  have hs : s.toByteArray = s.toList.utf8Encode := by
    rw [← String.toByteArray_ofList, String.ofList_toList]
  rw [encode, String.toUTF8_eq_toByteArray, hs]
  exact List.toList_data_toByteArray

/-- Only the form of one byte has a byte below `0x80`. -/
theorem toNat_eq_of_mem_utf8EncodeChar {c : Char} {b : UInt8}
    (h : b ∈ String.utf8EncodeChar c) (hb : b.toNat < 0x80) : c.toNat = b.toNat := by
  have hlong : ∀ n, 0x80 ≤ n → n < 0x100 → b ≠ UInt8.ofNat n := by
    rintro n hlow hhigh rfl
    rw [UInt8.toNat_ofNat'] at hb
    omega
  unfold String.utf8EncodeChar at h
  dsimp only at h
  split at h
  · next hascii =>
      rw [List.mem_singleton.mp h, UInt8.toNat_ofNat']
      change c.toNat ≤ 127 at hascii
      change c.toNat = c.toNat % 2 ^ 8
      omega
  · exfalso
    repeat' split at h
    all_goals
      simp only [List.mem_cons, List.not_mem_nil, or_false] at h
    · rcases h with h | h <;> exact hlong _ (by omega) (by omega) h
    · rcases h with h | h | h <;> exact hlong _ (by omega) (by omega) h
    · rcases h with h | h | h | h <;> exact hlong _ (by omega) (by omega) h

theorem mem_of_mem_encode {c : Char} (hc : c.toNat < 0x80) {s : String}
    (h : UInt8.ofNat c.toNat ∈ encode s) : c ∈ s.toList := by
  rw [encode_eq_flatMap] at h
  obtain ⟨d, hd, hmem⟩ := List.mem_flatMap.mp h
  have hbyte : (UInt8.ofNat c.toNat).toNat = c.toNat := by
    rw [UInt8.toNat_ofNat']
    omega
  have heq := toNat_eq_of_mem_utf8EncodeChar hmem (by omega)
  rw [hbyte] at heq
  rwa [← Char.ofNat_toNat c, ← heq, Char.ofNat_toNat]

/-! ## Texts read from bytes -/

/-- What a begun character comes to is at least `0x40`, whatever follows. -/
def Begun.Large (state : Begun) : Prop :=
  1 ≤ state.bits ∨ (2 ≤ state.owed ∧ 0x81 ≤ state.low ∧ state.high ≤ 0xBF)

theorem large_of_lead {b : UInt8} {state : Begun} (h : lead b = .begin state) :
    state.Large := by
  unfold lead at h
  dsimp only at h
  repeat' split at h
  all_goals cases h
  all_goals
    unfold Begun.Large
    dsimp only
    omega

theorem toNat_of_lead {b : UInt8} {c : Char} (h : lead b = .single c) :
    UInt8.ofNat c.toNat = b := by
  unfold lead at h
  dsimp only at h
  repeat' split at h
  all_goals cases h
  next hsmall =>
    have hvalid : b.toNat.isValidChar := Or.inl (by omega)
    rw [Char.toNat_ofNat, if_pos hvalid, UInt8.ofNat_toNat]

/-- One more byte of a begun character that is not the last. -/
theorem Begun.Large.next {state : Begun} (h : state.Large) {b : UInt8}
    (hlow : state.low ≤ b.toNat) (hhigh : b.toNat ≤ state.high) (owed low high : Nat) :
    Begun.Large ⟨owed, state.bits * 0x40 + b.toNat % 0x40, low, high⟩ := by
  refine Or.inl ?_
  dsimp only
  unfold Begun.Large at h
  omega

/-- The last byte of a begun character. -/
theorem Begun.Large.ne_ofNat {state : Begun} (h : state.Large) (howed : state.owed ≤ 1) (n : Nat)
    {c : Char} (hpos : 0 < c.toNat) (hsmall : c.toNat < 0x40) :
    c ≠ Char.ofNat (state.bits * 0x40 + n % 0x40) := by
  rintro rfl
  rw [Char.toNat_ofNat] at hpos hsmall
  unfold Begun.Large at h
  split at hpos
  · next hvalid =>
      rw [if_pos hvalid] at hsmall
      omega
  · omega

/-- A small character comes from its own byte only. -/
theorem mem_of_some_mem_pieces {c : Char} (hpos : 0 < c.toNat) (hsmall : c.toNat < 0x40)
    {state : Option Begun} (hstate : ∀ begun ∈ state, begun.Large) {bytes : List UInt8}
    (h : some c ∈ pieces state bytes) : UInt8.ofNat c.toNat ∈ bytes := by
  induction bytes generalizing state with
  | nil =>
      cases state with
      | none => cases h
      | some begun => cases List.mem_singleton.mp h
  | cons b rest ih =>
      have hnone : ∀ begun ∈ (none : Option Begun), begun.Large := fun begun hbegun => by
        cases hbegun
      have hlead : some c ∈ pieces none (b :: rest) → UInt8.ofNat c.toNat ∈ b :: rest := by
        intro h
        rw [pieces] at h
        split at h
        · next d hsingle =>
            rcases List.mem_cons.mp h with heq | h
            · rw [Option.some.inj heq, toNat_of_lead hsingle]
              exact List.mem_cons_self
            · exact List.mem_cons_of_mem _ (ih hnone h)
        · next begun hbegin =>
            refine List.mem_cons_of_mem _ (ih ?_ h)
            rintro _ ⟨rfl⟩
            exact large_of_lead hbegin
        · rcases List.mem_cons.mp h with heq | h
          · cases heq
          · exact List.mem_cons_of_mem _ (ih hnone h)
      cases state with
      | none => exact hlead h
      | some begun =>
          have hlarge := hstate begun rfl
          by_cases hbounds : begun.low ≤ b.toNat ∧ b.toNat ≤ begun.high
          · rw [pieces, if_pos hbounds] at h
            dsimp only at h
            split at h
            · next howed =>
                rcases List.mem_cons.mp h with heq | h
                · exact absurd (Option.some.inj heq) (hlarge.ne_ofNat howed _ hpos hsmall)
                · exact List.mem_cons_of_mem _ (ih hnone h)
            · refine List.mem_cons_of_mem _ (ih ?_ h)
              rintro _ ⟨rfl⟩
              exact hlarge.next hbounds.1 hbounds.2 _ _ _
          · -- The byte is read again as a first one.
            have hagain : pieces (some begun) (b :: rest) = none :: pieces none (b :: rest) := by
              rw [pieces, pieces, if_neg hbounds]
            rw [hagain] at h
            rcases List.mem_cons.mp h with heq | h
            · cases heq
            · exact hlead h

theorem mem_of_mem_lossy {c : Char} (hpos : 0 < c.toNat) (hsmall : c.toNat < 0x40)
    {bytes : List UInt8} (h : c ∈ (lossy bytes).toList) : UInt8.ofNat c.toNat ∈ bytes := by
  rw [lossy, String.toList_ofList] at h
  obtain ⟨piece, hpiece, heq⟩ := List.mem_map.mp h
  cases piece with
  | none =>
      rw [← heq] at hsmall
      exact absurd hsmall (by decide)
  | some d =>
      cases heq
      exact mem_of_some_mem_pieces hpos hsmall (fun begun hbegun => by cases hbegun) hpiece

end TextTables.Text.Utf8
