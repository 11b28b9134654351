import TextTables.Proofs.Channel.Serving
import TextTables.Settings

/-!
# Limits that the settings admit

One byte more than the limit is asked for, so that a line of exactly as many bytes as the
limit can be told from a longer one.  Settings are refused if they leave no room for a
statement, but not if they leave no room for this byte: the largest limit is admitted, and
under it a channel counts as ended before anything is read.
-/

namespace TextTables.Channel

variable {max : UInt64}

/-- Under this limit a channel is read whole.  Wherever reading stands, the channel counts as
ended only if no bytes are left, and a line with at most `max` bytes before its end is read as
the text on it, whatever lines come before and after it. -/
structure ReadsWhole (max : UInt64) : Prop where
  ended_iff : ∀ bytes, next? max bytes = none ↔ bytes = []
  delivered : ∀ bytes before line after, lines bytes = before ++ line :: after →
    (content line).length ≤ max.toNat →
      (requests max bytes)[before.length]? =
        some (.statement (Text.Utf8.lossy ((content line).rdropWhile (· == carriageReturn))))

/-- The number of bytes that are asked for wraps around exactly for the largest limit. -/
theorem readLimit_eq_iff : readLimit max = max.toNat + 1 ↔ max.toNat < 2 ^ 64 - 1 := by
  refine ⟨fun h => ?_, readLimit_eq⟩
  have hlimit : readLimit max < 2 ^ 64 := (max + 1).toNat_lt
  omega

/-- What is read next is a request as long as bytes are left. -/
theorem next?_eq_none_iff (hmax : max.toNat < 2 ^ 64 - 1) {bytes : List UInt8} :
    next? max bytes = none ↔ bytes = [] := by
  constructor
  · intro h
    obtain ⟨said, ending, rest, rfl, hsaid, hends⟩ := exists_first_line bytes
    by_cases hempty : said ++ ending = []
    · cases hends with
      | line rest => simp at hempty
      | channel => rw [hempty, List.append_nil]
    · rw [next?_first_line hmax hsaid hends hempty] at h
      cases h
  · rintro rfl
    exact next?_nil max

theorem readsWhole_of_lt (hmax : max.toNat < 2 ^ 64 - 1) : ReadsWhole max where
  ended_iff := fun _ => next?_eq_none_iff hmax
  delivered := by
    intro bytes before line after hlines hlength
    rw [requests_eq_map hmax, hlines, List.getElem?_map,
      List.getElem?_append_right (Nat.le_refl _), Nat.sub_self, List.getElem?_cons_zero,
      Option.map_some, requestOf, if_pos hlength]

theorem readsWhole_iff : ReadsWhole max ↔ max.toNat < 2 ^ 64 - 1 := by
  refine ⟨fun h => ?_, readsWhole_of_lt⟩
  by_contra hmax
  have hended := (h.ended_iff [lineFeed]).mp (next?_of_largest hmax _)
  cases hended

/-- What is asked of settings before the program works with them. -/
theorem validate_eq_ok_iff {settings : Settings} :
    settings.validate = .ok () ↔ settings.storageDirectory ≠ "" ∧ settings.port ≠ 0 ∧
      0 < settings.maxStatementLength.toNat := by
  have hpos : 0 < settings.maxStatementLength.toNat ↔ settings.maxStatementLength ≠ 0 := by
    rw [Nat.pos_iff_ne_zero, Ne, Ne, ← UInt64.toNat_inj, UInt64.toNat_zero]
  rw [hpos, Settings.validate]
  by_cases hdirectory : settings.storageDirectory = ""
  · simp [hdirectory]
  · by_cases hport : settings.port = 0
    · simp [hdirectory, hport]
    · simp [hdirectory, hport]

/-- **Admitted limits but one leave room for the end of a line.**  Settings are admitted if
they name a directory and a port and allow for one byte at least.  The number of bytes that
are asked for under such a limit does not wrap around, and a channel is read whole, exactly if
the limit is not the largest number of all.  Under that one every channel counts as ended from
the beginning, whatever bytes are on it. -/
theorem readsWhole_iff_of_settings (settings : Settings) :
    let max := settings.maxStatementLength
    (settings.validate = .ok () ↔
      settings.storageDirectory ≠ "" ∧ settings.port ≠ 0 ∧ 0 < max.toNat) ∧
    (readLimit max = max.toNat + 1 ↔ max.toNat ≠ 2 ^ 64 - 1) ∧
    (ReadsWhole max ↔ max.toNat ≠ 2 ^ 64 - 1) ∧
    (max.toNat ≠ 2 ^ 64 - 1 ∨ ∀ bytes, next? max bytes = none) := by
  intro max
  have hmax : max.toNat ≠ 2 ^ 64 - 1 ↔ max.toNat < 2 ^ 64 - 1 := by
    have hlt := max.toNat_lt
    omega
  rw [hmax]
  refine ⟨validate_eq_ok_iff, readLimit_eq_iff, readsWhole_iff, ?_⟩
  by_cases hroom : max.toNat < 2 ^ 64 - 1
  · exact Or.inl hroom
  · exact Or.inr (next?_of_largest hroom)

/-- Settings with the largest limit are admitted, nothing is asked for under it, and a line of
seven bytes is left unread. -/
theorem exists_valid_settings_not_readsWhole :
    ∃ settings : Settings,
      settings.maxStatementLength = 18446744073709551615 ∧
      settings.validate = .ok () ∧
      readLimit settings.maxStatementLength = 0 ∧
      next? settings.maxStatementLength (Text.Utf8.encode "USE a;\n") = none ∧
      ¬ReadsWhole settings.maxStatementLength := by
  refine ⟨{ (default : Settings) with maxStatementLength := 18446744073709551615 },
    rfl, ?_, ?_, ?_, ?_⟩
  · decide
  · decide
  · decide +kernel
  · rw [readsWhole_iff]
    decide

end TextTables.Channel
