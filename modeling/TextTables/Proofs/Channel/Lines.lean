import Mathlib
import TextTables.Channel.Request

/-!
# Requests are lines

The bytes of a channel are lines: each ends with its only line feed, and what follows
the last line feed is a line without one.  Requests are read with a limit, and what is
left of a longer line is passed over piece by piece, but neither the limit nor the
pieces show: there is one request for each line, in order, which depends on that line
alone, and the next request begins with the first byte after it.
-/

namespace TextTables.Channel

/-- The lines of a channel, each with the line feed that ends it.  What follows the last
line feed is a line too, unless it is empty. -/
def lines : List UInt8 → List (List UInt8)
  | [] => []
  | b :: bytes =>
    if b = lineFeed then [b] :: lines bytes
    else
      match lines bytes with
      | [] => [[b]]
      | line :: more => (b :: line) :: more

/-- A line without the line feed that ends it. -/
def content (line : List UInt8) : List UInt8 :=
  if line.getLast? = some lineFeed then line.dropLast else line

/-- The request that a line makes where `max` bytes are allowed before its end. -/
def requestOf (max : Nat) (line : List UInt8) : Request :=
  if (content line).length ≤ max then
    .statement (Text.Utf8.lossy ((content line).rdropWhile (· == carriageReturn)))
  else
    .tooLong line.length

/-- What ends a line, with the bytes after it: a line feed, or the end of the channel. -/
inductive Ends : List UInt8 → List UInt8 → Prop
  | line (rest : List UInt8) : Ends [lineFeed] rest
  | channel : Ends [] []

variable {said ending rest : List UInt8}

/-! ## Lines -/

/-- All bytes are what is said before the first line feed, its end, and a rest. -/
theorem exists_first_line (bytes : List UInt8) :
    ∃ said ending rest, bytes = said ++ ending ++ rest ∧ lineFeed ∉ said ∧ Ends ending rest := by
  by_cases hmem : lineFeed ∈ bytes
  · obtain ⟨said, rest, hbytes, hsaid⟩ := List.eq_append_cons_of_mem hmem
    exact ⟨said, [lineFeed], rest, by simpa using hbytes, hsaid, .line rest⟩
  · exact ⟨bytes, [], [], by simp, hmem, .channel⟩

theorem lines_first_line (hsaid : lineFeed ∉ said) (hends : Ends ending rest)
    (hne : said ++ ending ≠ []) :
    lines (said ++ ending ++ rest) = (said ++ ending) :: lines rest := by
  induction said with
  | nil =>
      cases hends with
      | line rest => simp [lines]
      | channel => exact absurd rfl hne
  | cons b said ih =>
      rw [List.mem_cons, not_or] at hsaid
      rw [List.cons_append, List.cons_append, lines, if_neg (Ne.symm hsaid.1)]
      by_cases hlast : said ++ ending = []
      · cases hends with
        | line rest => simp at hlast
        | channel => simp [hlast, lines]
      · rw [ih hsaid.2 hlast]

/-- Bytes have a first line unless there are none. -/
theorem lines_eq_cons {bytes line : List UInt8} {more : List (List UInt8)}
    (h : lines bytes = line :: more) :
    ∃ said ending rest, bytes = said ++ ending ++ rest ∧ lineFeed ∉ said ∧ Ends ending rest ∧
      said ++ ending ≠ [] ∧ line = said ++ ending ∧ more = lines rest := by
  obtain ⟨said, ending, rest, rfl, hsaid, hends⟩ := exists_first_line bytes
  by_cases hne : said ++ ending = []
  · cases hends with
    | line rest => simp at hne
    | channel =>
        rw [hne] at h
        cases h
  · rw [lines_first_line hsaid hends hne] at h
    cases h
    exact ⟨said, ending, rest, rfl, hsaid, hends, hne, rfl, rfl⟩

theorem flatten_lines (bytes : List UInt8) : (lines bytes).flatten = bytes := by
  induction bytes with
  | nil => rfl
  | cons b bytes ih =>
      rw [lines]
      split
      · rw [List.flatten_cons, ih, List.singleton_append]
      · split
        · next hnone =>
            rw [hnone] at ih
            rw [← ih]
            rfl
        · next line more hlines =>
            rw [hlines] at ih
            rw [← ih]
            rfl

/-- What is left after some of the lines has the other lines. -/
theorem lines_flatten_of_append {bytes : List UInt8} {before after : List (List UInt8)}
    (h : lines bytes = before ++ after) : lines after.flatten = after := by
  induction before generalizing bytes with
  | nil =>
      rw [List.nil_append] at h
      rw [← h, flatten_lines]
  | cons line before ih =>
      obtain ⟨said, ending, rest, _, _, _, _, _, hmore⟩ := lines_eq_cons h
      exact ih hmore.symm

theorem getLast?_ne_of_not_mem (hsaid : lineFeed ∉ said) : said.getLast? ≠ some lineFeed :=
  fun hlast => hsaid (List.mem_of_getLast? hlast)

theorem content_append (hsaid : lineFeed ∉ said) (hends : Ends ending rest) :
    content (said ++ ending) = said := by
  cases hends with
  | line rest => simp [content]
  | channel => rw [List.append_nil, content, if_neg (getLast?_ne_of_not_mem hsaid)]

/-- What is said on a line has no line feed. -/
theorem lineFeed_not_mem_content {bytes line : List UInt8} (h : line ∈ lines bytes) :
    lineFeed ∉ content line := by
  obtain ⟨before, after, hlines⟩ := List.append_of_mem h
  obtain ⟨said, ending, rest, _, hsaid, hends, _, rfl, _⟩ :=
    lines_eq_cons (lines_flatten_of_append hlines)
  rwa [content_append hsaid hends]

theorem content_subset {bytes line : List UInt8} (h : line ∈ lines bytes) :
    content line ⊆ bytes := by
  intro b hb
  rw [← flatten_lines bytes]
  refine List.mem_flatten_of_mem h ?_
  unfold content at hb
  split at hb
  · exact List.mem_of_mem_dropLast hb
  · exact hb

/-! ## Taking lines -/

theorem takeLine_cons {b : UInt8} (hb : lineFeed ≠ b) (limit : Nat) (bytes : List UInt8) :
    takeLine (limit + 1) (b :: bytes) =
      (b :: (takeLine limit bytes).1, (takeLine limit bytes).2) := by
  rw [takeLine, if_neg (by simpa using Ne.symm hb)]

theorem takeLine_first_line (hsaid : lineFeed ∉ said) (hends : Ends ending rest) {limit : Nat}
    (hlimit : said.length < limit) :
    takeLine limit (said ++ ending ++ rest) = (said ++ ending, rest) := by
  obtain ⟨limit, rfl⟩ := Nat.exists_eq_succ_of_ne_zero (Nat.ne_zero_of_lt hlimit)
  induction said generalizing limit with
  | nil =>
      cases hends with
      | line rest => simp [takeLine]
      | channel => rfl
  | cons b said ih =>
      rw [List.mem_cons, not_or] at hsaid
      have hmore : said.length < limit := Nat.lt_of_succ_lt_succ hlimit
      obtain ⟨limit, rfl⟩ := Nat.exists_eq_succ_of_ne_zero (Nat.ne_zero_of_lt hmore)
      rw [List.cons_append, List.cons_append, takeLine_cons hsaid.1, ih hsaid.2 limit hmore]

/-- A line that reaches the limit is cut there. -/
theorem takeLine_within (hsaid : lineFeed ∉ said) {limit : Nat} (hlimit : limit ≤ said.length)
    (rest : List UInt8) :
    takeLine limit (said ++ rest) = (said.take limit, said.drop limit ++ rest) := by
  induction limit generalizing said with
  | zero => rfl
  | succ limit ih =>
      cases said with
      | nil => cases hlimit
      | cons b said =>
          rw [List.mem_cons, not_or] at hsaid
          rw [List.cons_append, takeLine_cons hsaid.1,
            ih hsaid.2 (Nat.le_of_succ_le_succ hlimit)]
          rfl

theorem skipRest_nil : skipRest [] = (0, []) := by
  rw [skipRest]
  rfl

/-- Passing over the rest of a line piece by piece passes over exactly that. -/
theorem skipRest_first_line (hsaid : lineFeed ∉ said) (hends : Ends ending rest) :
    skipRest (said ++ ending ++ rest) = (said.length + ending.length, rest) := by
  induction hlength : said.length using Nat.strongRecOn generalizing said with
  | ind length ih =>
      subst hlength
      rw [skipRest]
      by_cases hlimit : said.length < skipSize
      · rw [takeLine_first_line hsaid hends hlimit]
        cases hends with
        | line rest => simp
        | channel =>
            by_cases hempty : said = []
            · simp [hempty]
            · simp [hempty, getLast?_ne_of_not_mem hsaid, skipRest_nil]
      · have hle : skipSize ≤ said.length := Nat.le_of_not_lt hlimit
        have hpos : 0 < skipSize := by decide
        have hpiece : said.take skipSize ≠ [] := by
          rw [← List.length_pos_iff, List.length_take]
          omega
        have hlast : (said.take skipSize).getLast? ≠ some lineFeed :=
          getLast?_ne_of_not_mem fun hmem => hsaid (List.mem_of_mem_take hmem)
        have hmore : skipRest (said.drop skipSize ++ ending ++ rest) =
            ((said.drop skipSize).length + ending.length, rest) := by
          refine ih _ ?_ (fun hmem => hsaid (List.mem_of_mem_drop hmem)) rfl
          rw [List.length_drop]
          omega
        rw [List.append_assoc, takeLine_within hsaid hle, ← List.append_assoc]
        simp only [hmore, List.isEmpty_iff, hpiece, hlast, beq_iff_eq, Bool.or_eq_true, or_self,
          if_false, List.length_take, List.length_drop, Prod.mk.injEq, and_true]
        omega

/-! ## Requests -/

theorem stripEnd_of_not_mem (hsaid : lineFeed ∉ said) :
    stripEnd said = said.rdropWhile (· == carriageReturn) := by
  change said.rdropWhile _ = _
  induction said using List.reverseRecOn with
  | nil => rfl
  | append_singleton before b ih =>
      rw [List.mem_append, List.mem_singleton, not_or] at hsaid
      have hb : (b == lineFeed) = false := beq_false_of_ne (Ne.symm hsaid.2)
      rw [List.rdropWhile_concat, List.rdropWhile_concat, hb, Bool.false_or, ih hsaid.1]

theorem stripEnd_append (hsaid : lineFeed ∉ said) (hends : Ends ending rest) :
    stripEnd (said ++ ending) = said.rdropWhile (· == carriageReturn) := by
  rw [← stripEnd_of_not_mem hsaid]
  cases hends with
  | line rest => exact List.rdropWhile_concat_pos _ said lineFeed rfl
  | channel => rw [List.append_nil]

theorem readLimit_eq {max : UInt64} (hmax : max.toNat < 2 ^ 64 - 1) :
    readLimit max = max.toNat + 1 := by
  rw [readLimit, UInt64.toNat_add]
  apply Nat.mod_eq_of_lt
  rw [UInt64.toNat_one]
  omega

/-- What comes first on a channel is read as one request, and what is left begins right
after its end. -/
theorem next?_first_line {max : UInt64} (hmax : max.toNat < 2 ^ 64 - 1)
    (hsaid : lineFeed ∉ said) (hends : Ends ending rest) (hne : said ++ ending ≠ []) :
    next? max (said ++ ending ++ rest) = some (requestOf max.toNat (said ++ ending), rest) := by
  rw [next?, readLimit_eq hmax, requestOf, content_append hsaid hends]
  by_cases hlength : said.length ≤ max.toNat
  · rw [takeLine_first_line hsaid hends (Nat.lt_succ_of_le hlength), if_pos hlength,
      ← stripEnd_append hsaid hends]
    have hwithin : ((said ++ ending).getLast? != some lineFeed &&
        (max.toNat + 1).ble (said ++ ending).length) = false := by
      cases hends with
      | line rest => simp
      | channel =>
          rw [List.append_nil, Bool.and_eq_false_iff, Bool.eq_false_iff (b := Nat.ble _ _),
            ne_eq, Nat.ble_eq]
          exact Or.inr (Nat.not_le_of_lt (Nat.lt_succ_of_le hlength))
    simp only [List.isEmpty_iff, hne, if_false, hwithin]
    rfl
  · have hlimit : max.toNat + 1 ≤ said.length := Nat.lt_of_not_le hlength
    have hpiece : said.take (max.toNat + 1) ≠ [] := by
      rw [← List.length_pos_iff, List.length_take]
      omega
    have hlast : (said.take (max.toNat + 1)).getLast? ≠ some lineFeed :=
      getLast?_ne_of_not_mem fun hmem => hsaid (List.mem_of_mem_take hmem)
    have hdropped : lineFeed ∉ said.drop (max.toNat + 1) :=
      fun hmem => hsaid (List.mem_of_mem_drop hmem)
    have hrest := skipRest_first_line hdropped hends
    rw [List.append_assoc, takeLine_within hsaid hlimit, ← List.append_assoc, if_neg hlength]
    have hover : ((said.take (max.toNat + 1)).getLast? != some lineFeed &&
        (max.toNat + 1).ble (said.take (max.toNat + 1)).length) = true := by
      rw [Bool.and_eq_true, bne_iff_ne, Nat.ble_eq, List.length_take]
      exact ⟨hlast, by omega⟩
    have htotal : (said.take (max.toNat + 1)).length +
        ((said.drop (max.toNat + 1)).length + ending.length) = (said ++ ending).length := by
      rw [List.length_take, List.length_drop, List.length_append]
      omega
    simp only [hrest, List.isEmpty_iff, hpiece, if_false, hover, if_true, htotal]

theorem next?_nil (max : UInt64) : next? max [] = none := by
  rw [next?]
  cases readLimit max with
  | zero => rfl
  | succ limit => rfl

theorem requests_nil (max : UInt64) : requests max [] = [] := by
  rw [requests, next?_nil]

theorem requests_eq_map {max : UInt64} (hmax : max.toNat < 2 ^ 64 - 1) (bytes : List UInt8) :
    requests max bytes = (lines bytes).map (requestOf max.toNat) := by
  induction hlines : lines bytes generalizing bytes with
  | nil =>
      have hbytes := flatten_lines bytes
      rw [hlines] at hbytes
      rw [← hbytes]
      exact requests_nil max
  | cons line more ih =>
      obtain ⟨said, ending, rest, rfl, hsaid, hends, hne, rfl, rfl⟩ := lines_eq_cons hlines
      rw [requests, next?_first_line hmax hsaid hends hne, List.map_cons, ← ih rest rfl]

/-- Nothing is read at all under the largest limit, which leaves no number for the end. -/
theorem next?_of_largest {max : UInt64} (hmax : ¬max.toNat < 2 ^ 64 - 1) (bytes : List UInt8) :
    next? max bytes = none := by
  have hlimit : readLimit max = 0 := by
    have hlt := max.toNat_lt
    rw [readLimit, UInt64.toNat_add, UInt64.toNat_one]
    omega
  rw [next?, hlimit]
  rfl

theorem requests_of_largest {max : UInt64} (hmax : ¬max.toNat < 2 ^ 64 - 1)
    (bytes : List UInt8) : requests max bytes = [] := by
  rw [requests, next?_of_largest hmax]

/-- **Requests are lines.**  A channel is read as one request for each of its lines, in
order: the text of a line with at most `max` bytes before its end, and the length of any
other line.  Wherever a line stands, the request that is read there is that of the line,
and what is left to be read is exactly what follows the line. -/
theorem requests_eq_map_lines (max : UInt64) (hmax : max.toNat < 2 ^ 64 - 1)
    (bytes : List UInt8) :
    requests max bytes = (lines bytes).map (requestOf max.toNat) ∧
      ∀ before line after, lines bytes = before ++ line :: after →
        bytes = before.flatten ++ (line ++ after.flatten) ∧
          next? max (line ++ after.flatten) =
            some (requestOf max.toNat line, after.flatten) := by
  refine ⟨requests_eq_map hmax bytes, fun before line after hlines => ⟨?_, ?_⟩⟩
  · have hbytes := flatten_lines bytes
    rw [hlines, List.flatten_append, List.flatten_cons] at hbytes
    exact hbytes.symm
  · obtain ⟨said, ending, rest, hbytes, hsaid, hends, hne, rfl, rfl⟩ :=
      lines_eq_cons (lines_flatten_of_append hlines)
    rw [flatten_lines]
    exact next?_first_line hmax hsaid hends hne

/-- Three bytes are allowed: a line of three is a statement, one of four and a carriage
return is too long by all its six bytes, and the next one is read again. -/
theorem requests_eq_map_lines_at_limit :
    (3 : UInt64).toNat < 2 ^ 64 - 1 ∧
      requests 3 [0x61, 0x62, 0x63, 0x0A, 0x61, 0x62, 0x63, 0x64, 0x0D, 0x0A, 0x78, 0x0D] =
        [.statement "abc", .tooLong 6, .statement "x"] := by
  have hmax : (3 : UInt64).toNat < 2 ^ 64 - 1 := by decide
  refine ⟨hmax, ?_⟩
  rw [(requests_eq_map_lines 3 hmax _).1]
  decide

end TextTables.Channel
