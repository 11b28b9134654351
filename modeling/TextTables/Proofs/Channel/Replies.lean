import TextTables.Channel.Service
import TextTables.Proofs.Channel.Lines
import TextTables.Proofs.Ledger.Transcript
import TextTables.Proofs.Text.Utf8

/-!
# What channels bring into replies

A character that no reply makes up reaches the replies from the texts of requests only.  A
line feed is such a character, and it ends the line before it can get into a request: so
whatever was sent on whatever channels, no cell, no heading and no word in a message holds
a line feed.
-/

namespace TextTables

open Text (FreeOf Foreign)

/-- The text of a request does not hold the character. -/
def Request.Avoids (c : Char) : Request → Prop
  | .statement text => FreeOf c text
  | .tooLong _ => True

namespace Channel

variable {c : Char}

/-! ## Requests -/

/-- A request for a line is made of bytes that stand on the line. -/
theorem avoids_requestOf (hpos : 0 < c.toNat) (hsmall : c.toNat < 0x40) {line : List UInt8}
    (h : UInt8.ofNat c.toNat ∉ content line) (max : Nat) : (requestOf max line).Avoids c := by
  unfold requestOf
  split
  · intro hmem
    have hbyte := Text.Utf8.mem_of_mem_lossy hpos hsmall hmem
    exact h ((List.rdropWhile_prefix _ _).subset hbyte)
  · trivial

theorem avoids_of_mem_requests (hpos : 0 < c.toNat) (hsmall : c.toNat < 0x40) {max : UInt64}
    {bytes : List UInt8} (h : ∀ line ∈ lines bytes, UInt8.ofNat c.toNat ∉ content line) :
    ∀ request ∈ requests max bytes, request.Avoids c := by
  intro request hrequest
  by_cases hmax : max.toNat < 2 ^ 64 - 1
  · rw [requests_eq_map hmax] at hrequest
    obtain ⟨line, hline, rfl⟩ := List.mem_map.mp hrequest
    exact avoids_requestOf hpos hsmall (h line hline) _
  · rw [requests_of_largest hmax] at hrequest
    cases hrequest

/-- A character whose byte is not on the channel is in no request. -/
theorem avoids_of_not_mem (hpos : 0 < c.toNat) (hsmall : c.toNat < 0x40) {max : UInt64}
    {bytes : List UInt8} (h : UInt8.ofNat c.toNat ∉ bytes) :
    ∀ request ∈ requests max bytes, request.Avoids c :=
  avoids_of_mem_requests hpos hsmall fun _ hline hmem => h (content_subset hline hmem)

/-- The end of a line is in no request. -/
theorem avoids_lineFeed_of_mem_requests {max : UInt64} {bytes : List UInt8} :
    ∀ request ∈ requests max bytes, request.Avoids '\n' :=
  avoids_of_mem_requests (by decide) (by decide) fun _ hline => lineFeed_not_mem_content hline

/-! ## Replies -/

/-- What a session is like that was given no text with the character: it shows a ledger
without it. -/
def Unmarked (c : Char) (s : Session Catalog) : Prop :=
  ∃ l : Ledger, l.WellFormed ∧ l.ShownBy s ∧ l.Every (Table.Avoids c)

theorem unmarked_start : Unmarked c (Session.start Catalog.empty) :=
  ⟨.empty, Ledger.wellFormed_empty, Ledger.shownBy_start, Ledger.every_empty⟩

variable {s : Session Catalog}

theorem Unmarked.respond (hc : Foreign c) (h : Unmarked c s) (max : UInt64) {request : Request}
    (hrequest : request.Avoids c) :
    (respond max s request).1.Avoids c ∧ Unmarked c (respond max s request).2 := by
  cases request with
  | statement text =>
      obtain ⟨l, hwell, hshown, hevery⟩ := h
      obtain ⟨hreply, hafter⟩ := hwell.agree_execute hshown text
      obtain ⟨havoids, hnext⟩ := hevery.execute hc hrequest
      rw [Channel.respond, hreply]
      exact ⟨havoids, _, hwell.execute text, hafter, hnext⟩
  | tooLong length => exact ⟨Fault.avoids_of_words_eq_nil nofun rfl, h⟩

theorem respondAll_cons {σ : Type} [Store σ] (max : UInt64) (s : Session σ) (request : Request)
    (more : List Request) :
    respondAll max s (request :: more) =
      ((respond max s request).1 :: (respondAll max (respond max s request).2 more).1,
        (respondAll max (respond max s request).2 more).2) := rfl

theorem length_respondAll {σ : Type} [Store σ] (max : UInt64) (s : Session σ)
    (given : List Request) : (respondAll max s given).1.length = given.length := by
  induction given generalizing s with
  | nil => rfl
  | cons request more ih => rw [respondAll_cons, List.length_cons, ih, List.length_cons]

theorem Unmarked.respondAll (hc : Foreign c) (h : Unmarked c s) (max : UInt64)
    {given : List Request} (hgiven : ∀ request ∈ given, request.Avoids c) :
    (∀ reply ∈ (respondAll max s given).1, reply.Avoids c) ∧
      Unmarked c (respondAll max s given).2 := by
  induction given generalizing s with
  | nil => exact ⟨List.forall_mem_nil _, h⟩
  | cons request more ih =>
      obtain ⟨hrequest, hmore⟩ := List.forall_mem_cons.mp hgiven
      obtain ⟨hreply, hafter⟩ := h.respond hc max hrequest
      obtain ⟨hreplies, hlast⟩ := ih hafter hmore
      rw [respondAll_cons]
      exact ⟨List.forall_mem_cons.mpr ⟨hreply, hreplies⟩, hlast⟩

/-! ## Channel after channel -/

/-- The session after channels, one after another. -/
def afterAll {σ : Type} [Store σ] (max : UInt64) (s : Session σ) :
    List (List UInt8) → Session σ
  | [] => s
  | bytes :: more => afterAll max (serve max s bytes).2 more

theorem Unmarked.afterAll (hc : Foreign c) (h : Unmarked c s) (max : UInt64)
    {served : List (List UInt8)}
    (hserved : ∀ bytes ∈ served, ∀ request ∈ requests max bytes, request.Avoids c) :
    Unmarked c (afterAll max s served) := by
  induction served generalizing s with
  | nil => exact h
  | cons bytes more ih =>
      obtain ⟨hbytes, hmore⟩ := List.forall_mem_cons.mp hserved
      exact ih (h.respondAll hc max hbytes).2 hmore

end Channel

end TextTables
