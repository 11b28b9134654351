import TextTables.Proofs.Channel.Replies

/-!
# Serving line by line

A session answers the lines of a channel one after another, each in the state that the
lines before it led to.  So nothing depends on how lines are spread over channels: a channel
may be closed wherever a line ends, and the next one goes on from there.

There has to be room for the end of a line, though.  One more byte than the limit is asked
for, and under the largest limit of all that number wraps around to zero: nothing is read,
and the channel counts as closed.
-/

namespace TextTables.Channel

open Text.Utf8 (encode)

/-- Bytes that stop where a line ends. -/
def IsWhole (bytes : List UInt8) : Prop :=
  bytes = [] ∨ bytes.getLast? = some lineFeed

instance (bytes : List UInt8) : Decidable (IsWhole bytes) :=
  inferInstanceAs (Decidable (_ ∨ _))

/-! ## Lines of channels that follow each other -/

theorem IsWhole.of_cons {b : UInt8} {bytes : List UInt8} (h : IsWhole (b :: bytes)) :
    IsWhole bytes := by
  by_cases hempty : bytes = []
  · exact Or.inl hempty
  · rcases h with h | h
    · cases h
    · right
      rwa [List.getLast?_cons_of_ne_nil hempty] at h

theorem lines_eq_nil_iff {bytes : List UInt8} : lines bytes = [] ↔ bytes = [] := by
  constructor
  · intro h
    rw [← flatten_lines bytes, h, List.flatten_nil]
  · rintro rfl
    rfl

/-- No line begins before such a cut and ends behind it. -/
theorem lines_append {first : List UInt8} (h : IsWhole first) (bytes : List UInt8) :
    lines (first ++ bytes) = lines first ++ lines bytes := by
  induction first with
  | nil => rfl
  | cons b first ih =>
      have hmore := ih h.of_cons
      rw [List.cons_append, lines, lines, hmore]
      by_cases hb : b = lineFeed
      · simp only [hb, if_true, List.cons_append]
      · -- A byte other than the last has a line to go on with.
        have hfirst : lines first ≠ [] := by
          rw [Ne, lines_eq_nil_iff]
          rintro rfl
          rcases h with h | h
          · cases h
          · exact hb (Option.some.inj h)
        obtain ⟨line, more, hlines⟩ := List.exists_cons_of_ne_nil hfirst
        simp only [hb, if_false, hlines, List.cons_append]

theorem requests_append (max : UInt64) {first : List UInt8} (h : IsWhole first)
    (bytes : List UInt8) :
    requests max (first ++ bytes) = requests max first ++ requests max bytes := by
  by_cases hmax : max.toNat < 2 ^ 64 - 1
  · simp only [requests_eq_map hmax, lines_append h, List.map_append]
  · simp only [requests_of_largest hmax, List.append_nil]

/-! ## Serving -/

theorem framedAll_append (responses more : List String) :
    framedAll (responses ++ more) = framedAll responses ++ framedAll more := by
  simp [framedAll]

variable {σ : Type} [Store σ]

theorem respondAll_append (max : UInt64) (s : Session σ) (given more : List Request) :
    respondAll max s (given ++ more) =
      ((respondAll max s given).1 ++ (respondAll max (respondAll max s given).2 more).1,
        (respondAll max (respondAll max s given).2 more).2) := by
  induction given generalizing s with
  | nil => rfl
  | cons request rest ih =>
      rw [List.cons_append, respondAll_cons, respondAll_cons, ih]
      rfl

/-- What is sent on two channels, and the session after both, are those of one channel
with the bytes of both. -/
theorem serve_append (max : UInt64) (s : Session σ) {first : List UInt8} (h : IsWhole first)
    (bytes : List UInt8) :
    serve max s (first ++ bytes) =
      ((serve max s first).1 ++ (serve max (serve max s first).2 bytes).1,
        (serve max (serve max s first).2 bytes).2) := by
  simp only [serve, requests_append max h, respondAll_append, List.map_append,
    framedAll_append]

/-- Answers a line: the text on it is executed, unless more than `max` bytes stand before
its end. -/
def answerLine (max : Nat) (s : Session σ) (line : List UInt8) : Reply × Session σ :=
  if (content line).length ≤ max then
    s.execute (Text.Utf8.lossy ((content line).rdropWhile (· == carriageReturn)))
  else (.refused (.commandTooLong max), s)

/-- Answers lines one after another. -/
def answerLines (max : Nat) (s : Session σ) : List (List UInt8) → List Reply × Session σ
  | [] => ([], s)
  | line :: more =>
    let (reply, after) := answerLine max s line
    let (replies, last) := answerLines max after more
    (reply :: replies, last)

/-- What is sent for lines, and the session after them. -/
def serveLines (max : Nat) (s : Session σ) (given : List (List UInt8)) : String × Session σ :=
  let (replies, after) := answerLines max s given
  (framedAll (replies.map Reply.toText), after)

theorem length_answerLines (max : Nat) (s : Session σ) (given : List (List UInt8)) :
    (answerLines max s given).1.length = given.length := by
  induction given generalizing s with
  | nil => rfl
  | cons line more ih => exact congrArg (· + 1) (ih _)

theorem respond_requestOf (max : UInt64) (s : Session σ) (line : List UInt8) :
    respond max s (requestOf max.toNat line) = answerLine max.toNat s line := by
  unfold requestOf answerLine
  split
  · rfl
  · rfl

theorem respondAll_requestOf (max : UInt64) (s : Session σ) (given : List (List UInt8)) :
    respondAll max s (given.map (requestOf max.toNat)) = answerLines max.toNat s given := by
  induction given generalizing s with
  | nil => rfl
  | cons line more ih =>
      rw [List.map_cons, respondAll_cons, respond_requestOf, ih]
      rfl

theorem serve_eq_serveLines {max : UInt64} (hmax : max.toNat < 2 ^ 64 - 1) (s : Session σ)
    (bytes : List UInt8) : serve max s bytes = serveLines max.toNat s (lines bytes) := by
  rw [serve, requests_eq_map hmax, respondAll_requestOf]
  rfl

/-- Something is sent for lines, if only what follows a response. -/
theorem serveLines_fst_ne_empty (max : Nat) (s : Session σ) {given : List (List UInt8)}
    (h : given ≠ []) : (serveLines max s given).1 ≠ "" := by
  obtain ⟨line, more, rfl⟩ := List.exists_cons_of_ne_nil h
  have hend : responseEnd ≠ "" := by decide
  intro hsent
  simp only [serveLines, answerLines, framedAll, framed, List.map_cons, String.join_cons,
    String.append_eq_empty_iff] at hsent
  exact hend hsent.1.2

theorem serve_of_largest {max : UInt64} (hmax : ¬max.toNat < 2 ^ 64 - 1) (s : Session σ)
    (bytes : List UInt8) : serve max s bytes = ("", s) := by
  rw [serve, requests_of_largest hmax]
  rfl

/-- **Serving is line by line.**  Bytes that stop where a line ends may be sent on a channel
of their own: the same is sent in answer, and the session ends in the same state.  And on
every channel each line gets one response, in order: its text is executed in the state that
the lines before it led to, or its length is refused and the state stays.  This holds under
every limit but the largest, under which no line is answered at all. -/
theorem serve_line_by_line (max : UInt64) (s : Session σ) (first bytes : List UInt8)
    (hfirst : IsWhole first) :
    serve max s (first ++ bytes) =
        ((serve max s first).1 ++ (serve max (serve max s first).2 bytes).1,
          (serve max (serve max s first).2 bytes).2) ∧
      (answerLines max.toNat s (lines bytes)).1.length = (lines bytes).length ∧
      (serve max s bytes = serveLines max.toNat s (lines bytes) ↔
        max.toNat < 2 ^ 64 - 1 ∨ bytes = []) := by
  refine ⟨serve_append max s hfirst bytes, length_answerLines _ _ _, ?_⟩
  constructor
  · intro hserve
    by_contra hnot
    obtain ⟨hmax, hbytes⟩ := not_or.mp hnot
    have hsent := serveLines_fst_ne_empty max.toNat s (mt lines_eq_nil_iff.mp hbytes)
    rw [← hserve, serve_of_largest hmax] at hsent
    exact hsent rfl
  · rintro (hmax | rfl)
    · exact serve_eq_serveLines hmax s bytes
    · rw [serve, requests_nil]
      rfl

/-- What one channel makes is there on the next one.  The line that nobody ended is answered
too, and one with more than eighteen bytes is not executed. -/
theorem serve_line_by_line_two_channels :
    let first := encode "CREATE DATABASE d;\n"
    let bytes := encode "USE d;\r\nCREATE DATABASE abc;\nUSE e;"
    IsWhole first ∧
      (serve 18 (Session.start Catalog.empty) (first ++ bytes)).1 =
        framedAll ["[OK]", "[OK]", "[ERROR] Command exceeds maximum length of 18 bytes.",
          "[ERROR] Database 'e' does not exist."] := by
  intro first bytes
  have hfirst : IsWhole first := by decide +kernel
  have hmax : (18 : UInt64).toNat < 2 ^ 64 - 1 := by decide
  have hwhole := serve_line_by_line 18 (Session.start Catalog.empty) first bytes hfirst
  have hbefore := (serve_line_by_line 18 (Session.start Catalog.empty) [] first
    (Or.inl rfl)).2.2.mpr (Or.inl hmax)
  have hafter := (serve_line_by_line 18 (serve 18 (Session.start Catalog.empty) first).2 first
    bytes hfirst).2.2.mpr (Or.inl hmax)
  refine ⟨hfirst, ?_⟩
  rw [hwhole.1, hafter, hbefore]
  decide +kernel

/-- Under the largest limit a line is left without any response. -/
theorem serve_ne_serveLines_of_largest :
    let max : UInt64 := 18446744073709551615
    let bytes := encode "USE a;\n"
    (serve max (Session.start Catalog.empty) bytes).1 ≠
      (serveLines max.toNat (Session.start Catalog.empty) (lines bytes)).1 := by
  intro max bytes
  have hmax : ¬max.toNat < 2 ^ 64 - 1 := by decide
  have hlines : lines bytes ≠ [] := by decide +kernel
  rw [serve_of_largest hmax]
  exact (serveLines_fst_ne_empty max.toNat _ hlines).symm

end TextTables.Channel
