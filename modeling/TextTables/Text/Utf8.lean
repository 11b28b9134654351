/-!
# Text from bytes

Bytes that should be UTF-8 are read so that nothing stops the reader: each
longest piece that begins a character and cannot be completed counts as one
malformed piece, and so does each byte that begins none.  The table of lead
bytes is that of well-formed sequences: no overlong form, no surrogate, nothing
above `U+10FFFF`.
-/

namespace TextTables.Text.Utf8

/-- A character that has begun: how many bytes it still needs, the bits read so
far, and the bounds of the next byte. -/
structure Begun where
  owed : Nat
  bits : Nat
  low : Nat
  high : Nat

/-- What a byte in first position is. -/
inductive Lead where
  /-- A whole character. -/
  | single (c : Char)
  /-- The beginning of a character. -/
  | begin (state : Begun)
  /-- No beginning of any character. -/
  | malformed

/-- Reads a byte in first position. -/
def lead (b : UInt8) : Lead :=
  let n := b.toNat
  if n < 0x80 then .single (Char.ofNat n)
  else if n < 0xC2 then .malformed
  else if n < 0xE0 then .begin ⟨1, n - 0xC0, 0x80, 0xBF⟩
  else if n = 0xE0 then .begin ⟨2, 0, 0xA0, 0xBF⟩
  else if n = 0xED then .begin ⟨2, 0xD, 0x80, 0x9F⟩
  else if n < 0xF0 then .begin ⟨2, n - 0xE0, 0x80, 0xBF⟩
  else if n = 0xF0 then .begin ⟨3, 0, 0x90, 0xBF⟩
  else if n < 0xF4 then .begin ⟨3, n - 0xF0, 0x80, 0xBF⟩
  else if n = 0xF4 then .begin ⟨3, 4, 0x80, 0x8F⟩
  else .malformed

/-- Reads bytes in the given state; `none` in the answer is a malformed piece.
A byte that cannot continue a begun character ends it as malformed and is read
again in first position. -/
def pieces : Option Begun → List UInt8 → List (Option Char)
  | none, [] => []
  | some _, [] => [none]
  | none, b :: rest =>
    match lead b with
    | .single c => some c :: pieces none rest
    | .begin state => pieces (some state) rest
    | .malformed => none :: pieces none rest
  | some state, b :: rest =>
    if state.low ≤ b.toNat ∧ b.toNat ≤ state.high then
      let bits := state.bits * 0x40 + b.toNat % 0x40
      if state.owed ≤ 1 then some (Char.ofNat bits) :: pieces none rest
      else pieces (some ⟨state.owed - 1, bits, 0x80, 0xBF⟩) rest
    else
      none ::
        match lead b with
        | .single c => some c :: pieces none rest
        | .begin next => pieces (some next) rest
        | .malformed => none :: pieces none rest

/-- The text of the bytes, with `U+FFFD` for each malformed piece. -/
def lossy (bytes : List UInt8) : String :=
  String.ofList ((pieces none bytes).map fun piece => piece.getD '\uFFFD')

/-- The text of the bytes, if no piece of them is malformed. -/
def strict? (bytes : ByteArray) : Option String :=
  String.fromUTF8? bytes

/-- The bytes of a text. -/
def encode (s : String) : List UInt8 :=
  s.toUTF8.data.toList

end TextTables.Text.Utf8
