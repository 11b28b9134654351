import TextTables.Proofs.Channel.Replies
import TextTables.Proofs.Text.Cut

/-!
# Responses are told apart

Responses follow each other on a channel, each with a marker after it: a line that holds
nothing but the end of transmission.  A client that cuts what it gets at the markers has the
responses again unless such a line stands in one of them.  The first line of a response
cannot be one, nor the header of a table, nor a message.  What is left are rows of one cell,
and there is no other way to get the marker into a response.
-/

namespace TextTables

open Text (FreeOf cut Clear)
open Text.Utf8 (encode)

/-- The text on the line that ends a response. -/
def Channel.endOfTransmission : String := "\x04"

/-! ## Lines of replies -/

namespace Reply

/-- What the text of a reply begins with. -/
def firstLine : Reply → String
  | done | rows _ => "[OK]"
  | refused cause => "[ERROR] " ++ cause.message

/-- The lines that follow. -/
def moreLines : Reply → List String
  | rows found => found.toLines
  | done | refused _ => []

theorem toText_eq (reply : Reply) :
    reply.toText = "\n".intercalate (reply.firstLine :: reply.moreLines) := by
  cases reply with
  | rows found => rfl
  | done => exact String.intercalate_singleton.symm
  | refused cause => exact String.intercalate_singleton.symm

theorem Avoids.firstLine {reply : Reply} (h : reply.Avoids '\n') :
    FreeOf '\n' reply.firstLine := by
  cases reply with
  | refused cause =>
      have hmessage := Fault.Avoids.message h
      exact Text.freeOf_append.mpr ⟨Text.freeOf_ofList (by decide), hmessage⟩
  | done | rows => exact Text.freeOf_ofList (by decide)

theorem Avoids.moreLines {reply : Reply} (h : reply.Avoids '\n') :
    ∀ line ∈ reply.moreLines, FreeOf '\n' line := by
  intro line hline hmem
  cases reply with
  | rows found =>
      obtain ⟨cells, hcells, rfl⟩ := List.mem_map.mp hline
      have hfree : Row.Avoids '\n' cells := by
        rcases List.mem_cons.mp hcells with rfl | hrow
        · exact h.header '\n' Text.foreign_lineFeed
        · exact h.rows cells hrow
      rcases Row.mem_toLine hmem with heq | ⟨cell, hcell, hmem⟩
      · cases heq
      · exact hfree cell hcell hmem
  | done | refused => cases hline

/-- Only a row of one cell can be the line that ends a response. -/
theorem mem_moreLines_iff {reply : Reply} (h : reply.Avoids '\n') :
    Channel.endOfTransmission ∈ reply.moreLines ↔
      ∃ found, reply = .rows found ∧ [Channel.endOfTransmission] ∈ found.rows := by
  have honly : ∀ cells, Row.toLine cells = Channel.endOfTransmission ↔
      cells = [Channel.endOfTransmission] :=
    fun cells => Row.toLine_eq_iff (by decide) (by unfold Row.TabFree; decide)
  cases reply with
  | rows found =>
      constructor
      · intro hmem
        obtain ⟨cells, hcells, hline⟩ := List.mem_map.mp hmem
        rw [honly] at hline
        subst hline
        rcases List.mem_cons.mp hcells with hheader | hrow
        · have hheading := h.header '\x04' Text.foreign_endOfTransmission Channel.endOfTransmission
          rw [← hheader] at hheading
          exact absurd (hheading List.mem_cons_self) (by decide)
        · exact ⟨found, rfl, hrow⟩
      · rintro ⟨_, ⟨rfl⟩, hrow⟩
        refine List.mem_map.mpr ⟨_, List.mem_cons_of_mem _ hrow, ?_⟩
        exact (honly _).mpr rfl
  | done | refused =>
      constructor
      · intro hmem
        cases hmem
      · rintro ⟨_, ⟨⟩, _⟩

end Reply

namespace Channel

/-! ## Bytes -/

theorem encode_lines (first : String) (more : List String) :
    encode ("\n".intercalate (first :: more)) =
      encode first ++ (more.map encode).flatMap (lineFeed :: ·) := by
  induction more generalizing first with
  | nil => simp
  | cons second more ih =>
      have hfeed : encode "\n" = [lineFeed] := by decide +kernel
      rw [String.intercalate_cons_cons, Text.Utf8.encode_append, Text.Utf8.encode_append, hfeed,
        ih second]
      simp

theorem encode_responseEnd : encode responseEnd = [lineFeed, 0x04, lineFeed] := by
  decide +kernel

theorem encode_framedAll (responses : List String) :
    encode (framedAll responses) =
      (responses.map encode).flatMap (· ++ encode responseEnd) := by
  have hframed : ∀ response, encode (framed response) = encode response ++ encode responseEnd :=
    fun response => Text.Utf8.encode_append response responseEnd
  simp only [framedAll, Text.Utf8.encode_join, List.flatMap_map, hframed]

theorem lineFeed_not_mem_encode {line : String} (h : FreeOf '\n' line) :
    lineFeed ∉ encode line :=
  fun hmem => h (Text.Utf8.mem_of_mem_encode (c := '\n') (by decide) hmem)

/-- A marker begins in a response exactly if one of its rows is the line of the marker. -/
theorem clear_toText_iff {reply : Reply} (h : reply.Avoids '\n') :
    Clear (encode responseEnd) (encode reply.toText) ↔
      ∀ found, reply = .rows found → [endOfTransmission] ∉ found.rows := by
  have hlines : ∀ line ∈ reply.moreLines.map encode, lineFeed ∉ line := by
    intro line hline
    obtain ⟨text, htext, rfl⟩ := List.mem_map.mp hline
    exact lineFeed_not_mem_encode (h.moreLines text htext)
  have hsign : encode endOfTransmission = [0x04] := by decide +kernel
  have hmem : [0x04] ∈ reply.moreLines.map encode ↔ endOfTransmission ∈ reply.moreLines := by
    rw [← hsign, List.mem_map]
    constructor
    · rintro ⟨text, htext, heq⟩
      rwa [← Text.Utf8.encode_inj.mp heq]
    · exact fun htext => ⟨_, htext, rfl⟩
  rw [reply.toText_eq, encode_lines, encode_responseEnd,
    Text.clear_append_iff (lineFeed_not_mem_encode h.firstLine),
    Text.clear_lines_iff (by decide) hlines, hmem, Reply.mem_moreLines_iff h]
  constructor
  · exact fun hnone found hfound hrow => hnone ⟨found, hfound, hrow⟩
  · rintro hnone ⟨found, hfound, hrow⟩
    exact hnone found hfound hrow

/-! ## Framing -/

section

variable (max : UInt64) (served : List (List UInt8)) (bytes : List UInt8)

/-- The replies to the requests on a channel, after others that were served one after
another from the start. -/
def repliesAfter : List Reply :=
  (respondAll max (afterAll max (Session.start Catalog.empty) served) (requests max bytes)).1

/-- What is sent on that channel. -/
def sentAfter : String :=
  (serve max (afterAll max (Session.start Catalog.empty) served) bytes).1

theorem encode_sentAfter :
    encode (sentAfter max served bytes) =
      ((repliesAfter max served bytes).map fun reply => encode reply.toText).flatMap
        (· ++ encode responseEnd) := by
  change encode (framedAll ((repliesAfter max served bytes).map Reply.toText)) = _
  rw [encode_framedAll, List.map_map]
  rfl

end

variable {max : UInt64} {served : List (List UInt8)} {bytes : List UInt8}

/-- Whatever is in no request on any of the channels is in no reply. -/
theorem avoids_of_mem_repliesAfter {c : Char} (hc : Text.Foreign c)
    (hserved : ∀ channel ∈ served, ∀ request ∈ requests max channel, request.Avoids c)
    (hbytes : ∀ request ∈ requests max bytes, request.Avoids c) :
    ∀ reply ∈ repliesAfter max served bytes, reply.Avoids c := by
  have hreached := unmarked_start.afterAll hc max hserved
  exact (hreached.respondAll hc max hbytes).1

/-- Rows without the character do not show the marker. -/
theorem endOfTransmission_not_mem_rows {replies : List Reply}
    (h : ∀ reply ∈ replies, reply.Avoids '\x04') {found : Table}
    (hfound : .rows found ∈ replies) : [endOfTransmission] ∉ found.rows := by
  intro hrow
  have hcell := (h _ hfound).rows _ hrow endOfTransmission (List.mem_singleton_self _)
  exact absurd hcell (by decide)

/-- **Responses are told apart exactly if none shows the marker as a row.**  Whatever
channels were served before, a channel is answered with one response for each request, and
cutting at the markers gives their texts, in order, and nothing after them, if and only if
no query was answered with a row whose only cell is the end of transmission.  Without that
byte on any of the channels there is no such row. -/
theorem cut_serve_eq_iff (max : UInt64) (served : List (List UInt8)) (bytes : List UInt8) :
    (repliesAfter max served bytes).length = (requests max bytes).length ∧
      (cut (encode responseEnd) (encode (sentAfter max served bytes)) =
          (repliesAfter max served bytes).map (fun reply => encode reply.toText) ++ [[]] ↔
        ∀ found, .rows found ∈ repliesAfter max served bytes →
          [endOfTransmission] ∉ found.rows) ∧
      ((∀ channel ∈ bytes :: served, 0x04 ∉ channel) →
        ∀ found, .rows found ∈ repliesAfter max served bytes →
          [endOfTransmission] ∉ found.rows) := by
  refine ⟨length_respondAll max _ _, ?_, ?_⟩
  · have hreplies : ∀ reply ∈ repliesAfter max served bytes, reply.Avoids '\n' :=
      avoids_of_mem_repliesAfter Text.foreign_lineFeed
        (fun _ _ => avoids_lineFeed_of_mem_requests) avoids_lineFeed_of_mem_requests
    have hmarker : encode responseEnd ≠ [] := by
      rw [encode_responseEnd]
      exact List.cons_ne_nil _ _
    rw [encode_sentAfter, Text.cut_eq_iff hmarker]
    constructor
    · intro hclear found hfound
      have htext := hclear _ (List.mem_map.mpr ⟨_, hfound, rfl⟩)
      exact (clear_toText_iff (hreplies _ hfound)).mp htext found rfl
    · intro hnone text htext
      obtain ⟨reply, hreply, rfl⟩ := List.mem_map.mp htext
      refine (clear_toText_iff (hreplies reply hreply)).mpr ?_
      rintro found rfl
      exact hnone found hreply
  · intro hchannels found hfound
    have hrequests : ∀ channel ∈ bytes :: served, ∀ request ∈ requests max channel,
        request.Avoids '\x04' :=
      fun channel hchannel => avoids_of_not_mem (by decide) (by decide) (hchannels channel hchannel)
    obtain ⟨hbytes, hserved⟩ := List.forall_mem_cons.mp hrequests
    refine endOfTransmission_not_mem_rows ?_ hfound
    exact avoids_of_mem_repliesAfter Text.foreign_endOfTransmission hserved hbytes

/-- A literal may hold the end of transmission.  Where it is shown as a row, the response
seems to end before that row, and the row is left over behind the last marker. -/
theorem cut_serve_ne_of_literal :
    let bytes := encode ("CREATE DATABASE d;\nUSE d;\nCREATE TABLE t(c);\n" ++
      "INSERT INTO t VALUES ('\x04');\nSELECT c FROM t;\n")
    cut (encode responseEnd) (encode (sentAfter 1024 [] bytes)) ≠
      (repliesAfter 1024 [] bytes).map (fun reply => encode reply.toText) ++ [[]] := by
  intro bytes
  have hrequests : requests 1024 bytes =
      [.statement "CREATE DATABASE d;", .statement "USE d;", .statement "CREATE TABLE t(c);",
       .statement "INSERT INTO t VALUES ('\x04');", .statement "SELECT c FROM t;"] := by
    rw [requests_eq_map (by decide)]
    decide +kernel
  rw [encode_sentAfter, repliesAfter, hrequests]
  decide +kernel

end Channel

end TextTables
