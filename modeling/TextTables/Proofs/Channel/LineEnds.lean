import TextTables.Proofs.Channel.Serving

/-!
# The ends of lines

A statement may be sent with a line feed behind it, or with a carriage return and a line feed.
The text that is read is the same, but a carriage return counts among the bytes of the line:
under a limit of `max` bytes a statement with one has room for `max - 1` bytes of its own.  So
the two ends are told apart by the statements of exactly `max` bytes, and by nothing else.
-/

namespace TextTables

/-- The text of a request; a line over the limit has none. -/
def Request.text? : Request → Option String
  | .statement text => some text
  | .tooLong _ => none

namespace Channel

/-- Bytes that are said on one line, without those that end lines. -/
def IsSaid (said : List UInt8) : Prop :=
  lineFeed ∉ said ∧ carriageReturn ∉ said

instance (said : List UInt8) : Decidable (IsSaid said) :=
  inferInstanceAs (Decidable (_ ∧ _))

/-- A line that ends with carriage returns, none or more, and a line feed. -/
def lineOf (returns : Nat) (said : List UInt8) : List UInt8 :=
  said ++ List.replicate returns carriageReturn ++ [lineFeed]

/-- What is said, one line after another, all with the same end. -/
def sentOn (returns : Nat) (given : List (List UInt8)) : List UInt8 :=
  (given.map (lineOf returns)).flatten

variable {said : List UInt8}

theorem IsSaid.lineFeed_not_mem (h : IsSaid said) (returns : Nat) :
    lineFeed ∉ said ++ List.replicate returns carriageReturn := by
  have hne : lineFeed ≠ carriageReturn := by decide
  rw [List.mem_append, not_or]
  exact ⟨h.1, fun hmem => hne (List.eq_of_mem_replicate hmem)⟩

theorem isWhole_lineOf (returns : Nat) (said : List UInt8) : IsWhole (lineOf returns said) :=
  Or.inr (by rw [lineOf, List.getLast?_concat])

theorem IsSaid.lines_lineOf (h : IsSaid said) (returns : Nat) :
    lines (lineOf returns said) = [lineOf returns said] := by
  have hline := lines_first_line (h.lineFeed_not_mem returns) (.line []) (by simp)
  rwa [List.append_nil] at hline

/-- The lines that are sent are the lines that are there. -/
theorem lines_sentOn {given : List (List UInt8)} (h : ∀ said ∈ given, IsSaid said)
    (returns : Nat) : lines (sentOn returns given) = given.map (lineOf returns) := by
  induction given with
  | nil => rfl
  | cons said more ih =>
      obtain ⟨hsaid, hmore⟩ := List.forall_mem_cons.mp h
      have hsent : sentOn returns (said :: more) = lineOf returns said ++ sentOn returns more := rfl
      rw [hsent, lines_append (isWhole_lineOf returns said), hsaid.lines_lineOf, ih hmore]
      rfl

theorem IsSaid.rdropWhile_append (h : IsSaid said) (returns : Nat) :
    (said ++ List.replicate returns carriageReturn).rdropWhile (· == carriageReturn) = said := by
  induction returns with
  | zero =>
      rw [List.replicate_zero, List.append_nil, List.rdropWhile_eq_self_iff]
      intro hne hlast
      exact h.2 (beq_iff_eq.mp hlast ▸ List.getLast_mem hne)
  | succ returns ih =>
      rw [List.replicate_succ', ← List.append_assoc,
        List.rdropWhile_concat_pos (· == carriageReturn) _ carriageReturn rfl, ih]

/-- The carriage returns are no part of the text, but they count as bytes of the line. -/
theorem IsSaid.requestOf_lineOf (h : IsSaid said) (max returns : Nat) :
    requestOf max (lineOf returns said) =
      if said.length + returns ≤ max then .statement (Text.Utf8.lossy said)
      else .tooLong (said.length + returns + 1) := by
  have hcontent : content (lineOf returns said) =
      said ++ List.replicate returns carriageReturn :=
    content_append (h.lineFeed_not_mem returns) (.line [])
  rw [requestOf, hcontent, h.rdropWhile_append, lineOf]
  simp only [List.length_append, List.length_replicate, List.length_singleton]

/-- A carriage return makes a difference to what is read exactly where no byte is left for
it. -/
theorem IsSaid.text?_requestOf_eq_iff (h : IsSaid said) (max : Nat) :
    (requestOf max (lineOf 1 said)).text? = (requestOf max (lineOf 0 said)).text? ↔
      said.length ≠ max := by
  simp only [h.requestOf_lineOf, Nat.add_zero]
  rcases Nat.lt_trichotomy said.length max with hless | rfl | hgreater
  · have hwithin : said.length + 1 ≤ max := hless
    simp only [hwithin, hless.le, hless.ne, if_true, ne_eq, not_false_eq_true]
  · simp only [Nat.not_succ_le_self, le_refl, if_true, if_false, Request.text?, reduceCtorEq,
      ne_eq, not_true_eq_false]
  · have hover : ¬said.length + 1 ≤ max := by omega
    simp only [hover, hgreater.not_ge, hgreater.ne', if_false, Request.text?, ne_eq,
      not_false_eq_true]

theorem requests_sentOn_eq_map {max : UInt64} (hmax : max.toNat < 2 ^ 64 - 1)
    {given : List (List UInt8)} (hgiven : ∀ said ∈ given, IsSaid said) (returns : Nat) :
    requests max (sentOn returns given) =
      given.map fun said => requestOf max.toNat (lineOf returns said) := by
  rw [requests_eq_map hmax, lines_sentOn hgiven, List.map_map]
  rfl

/-- **The ends of lines matter where a statement fills its line, and only there.**  What is
said is read as one request for each line: its text if its bytes and the carriage returns
behind them are within the limit, and else the length of the line.  So the lines that end
with a carriage return and a line feed give the same statements, and the same ones are too
long, as those that end with a line feed exactly if no statement has as many bytes as the
limit allows. -/
theorem requests_sentOn (max : UInt64) (hmax : max.toNat < 2 ^ 64 - 1)
    {given : List (List UInt8)} (hgiven : ∀ said ∈ given, IsSaid said) :
    (∀ returns, requests max (sentOn returns given) = given.map fun said =>
      if said.length + returns ≤ max.toNat then .statement (Text.Utf8.lossy said)
      else .tooLong (said.length + returns + 1)) ∧
    ((requests max (sentOn 1 given)).map Request.text? =
        (requests max (sentOn 0 given)).map Request.text? ↔
      ∀ said ∈ given, said.length ≠ max.toNat) := by
  constructor
  · intro returns
    rw [requests_sentOn_eq_map hmax hgiven]
    exact List.map_congr_left fun said hsaid => (hgiven said hsaid).requestOf_lineOf _ _
  · rw [requests_sentOn_eq_map hmax hgiven, requests_sentOn_eq_map hmax hgiven, List.map_map,
      List.map_map, List.map_inj_left]
    exact forall₂_congr fun said hsaid => (hgiven said hsaid).text?_requestOf_eq_iff _

/-- Under a limit of four bytes a statement of three, an empty one and one of five come to
the same with both ends. -/
theorem requests_sentOn_around_limit :
    let given : List (List UInt8) := [[0x61, 0x62, 0x63], [], [0x61, 0x62, 0x63, 0x64, 0x65]]
    (4 : UInt64).toNat < 2 ^ 64 - 1 ∧ (∀ said ∈ given, IsSaid said) ∧
      requests 4 (sentOn 1 given) = [.statement "abc", .statement "", .tooLong 7] ∧
      (requests 4 (sentOn 1 given)).map Request.text? =
        (requests 4 (sentOn 0 given)).map Request.text? := by
  intro given
  have hmax : (4 : UInt64).toNat < 2 ^ 64 - 1 := by decide
  have hgiven : ∀ said ∈ given, IsSaid said := by decide
  obtain ⟨hread, hsame⟩ := requests_sentOn 4 hmax hgiven
  refine ⟨hmax, hgiven, ?_, hsame.mpr (by decide)⟩
  rw [hread]
  decide

/-- Three bytes are allowed, and a statement of three bytes is read from one channel and
refused on the other. -/
theorem requests_sentOn_ne_at_limit :
    let given : List (List UInt8) := [[0x61, 0x62, 0x63]]
    sentOn 1 given = [0x61, 0x62, 0x63, 0x0D, 0x0A] ∧
      requests 3 (sentOn 0 given) = [.statement "abc"] ∧
      requests 3 (sentOn 1 given) = [.tooLong 5] := by
  intro given
  have hmax : (3 : UInt64).toNat < 2 ^ 64 - 1 := by decide
  have hgiven : ∀ said ∈ given, IsSaid said := by decide
  refine ⟨by decide, ?_, ?_⟩
  · rw [requests_sentOn_eq_map hmax hgiven]
    decide
  · rw [requests_sentOn_eq_map hmax hgiven]
    decide

end Channel

end TextTables
