import TextTables.Text.Utf8

/-!
# Requests on a channel

A channel carries one statement a line.  A line is read up to a limit; one that
is longer is passed over to its end and only its length is told.  The rest of the
channel begins right after the line in either case.
-/

namespace TextTables

/-- What one line of a channel holds. -/
inductive Request where
  | statement (text : String)
  /-- A line over the limit; `length` counts all its bytes. -/
  | tooLong (length : Nat)
deriving Repr, DecidableEq

namespace Channel

/-- The byte that ends a line. -/
def lineFeed : UInt8 := 0x0A

/-- The byte that may stand before the end of a line. -/
def carriageReturn : UInt8 := 0x0D

/-- Takes a line, or as much of it as the limit allows, and leaves the rest. -/
def takeLine : Nat → List UInt8 → List UInt8 × List UInt8
  | 0, bytes => ([], bytes)
  | _ + 1, [] => ([], [])
  | limit + 1, b :: bytes =>
    if b == lineFeed then ([b], bytes)
    else
      let (line, rest) := takeLine limit bytes
      (b :: line, rest)

theorem length_takeLine (limit : Nat) (bytes : List UInt8) :
    (takeLine limit bytes).1.length + (takeLine limit bytes).2.length = bytes.length := by
  induction limit generalizing bytes with
  | zero => simp [takeLine]
  | succ limit ih =>
      cases bytes with
      | nil => simp [takeLine]
      | cons b bytes =>
          simp only [takeLine]
          split
          · simp [Nat.add_comm]
          · have := ih bytes
            simp only [List.length_cons]
            omega

/-- The most bytes of the rest of a line that are passed over at once. -/
def skipSize : Nat := 8192

/-- Passes over the rest of a line, piece by piece, whatever its length: how many
bytes that are, and what follows them. -/
def skipRest (bytes : List UInt8) : Nat × List UInt8 :=
  match _h : takeLine skipSize bytes with
  | (piece, rest) =>
    if piece.isEmpty || piece.getLast? == some lineFeed then (piece.length, rest)
    else
      let (more, after) := skipRest rest
      (piece.length + more, after)
termination_by bytes.length
decreasing_by
  next hend =>
    have hlength := length_takeLine skipSize bytes
    have hpiece : piece ≠ [] := by
      rintro rfl
      exact hend rfl
    have hpos := List.length_pos_iff.mpr hpiece
    rw [_h] at hlength
    simp only at hlength
    omega

theorem length_skipRest (bytes : List UInt8) :
    (skipRest bytes).1 + (skipRest bytes).2.length = bytes.length := by
  fun_induction skipRest bytes with
  | case1 bytes piece rest htake hend =>
      have hlength := length_takeLine skipSize bytes
      rwa [htake] at hlength
  | case2 bytes piece rest htake hend more after hskip ih =>
      have hlength := length_takeLine skipSize bytes
      rw [htake] at hlength
      rw [hskip] at ih
      simp only at hlength ih ⊢
      omega

/-- A line without the bytes that end it. -/
def stripEnd (line : List UInt8) : List UInt8 :=
  (line.reverse.dropWhile fun b => b == lineFeed || b == carriageReturn).reverse

/-- The number of bytes that are read of a line in which `max` bytes are allowed
before its end.  It is a 64-bit number like `max`. -/
def readLimit (max : UInt64) : Nat :=
  (max + 1).toNat

/-- The next request, and the bytes after it. -/
def next? (max : UInt64) (bytes : List UInt8) : Option (Request × List UInt8) :=
  let limit := readLimit max
  let (line, rest) := takeLine limit bytes
  if line.isEmpty then none
  else if line.getLast? != some lineFeed && limit.ble line.length then
    let (skipped, rest) := skipRest rest
    some (.tooLong (line.length + skipped), rest)
  else
    some (.statement (Text.Utf8.lossy (stripEnd line)), rest)

theorem length_rest_lt {max : UInt64} {bytes rest : List UInt8} {request : Request}
    (h : next? max bytes = some (request, rest)) : rest.length < bytes.length := by
  have hline := length_takeLine (readLimit max) bytes
  simp only [next?] at h
  split at h
  · cases h
  · next hne =>
      have hpos : 0 < (takeLine (readLimit max) bytes).1.length :=
        List.length_pos_iff.mpr (by simpa using hne)
      split at h
      · have hrest := length_skipRest (takeLine (readLimit max) bytes).2
        simp only [Option.some.injEq, Prod.mk.injEq] at h
        have := congrArg List.length h.2
        omega
      · simp only [Option.some.injEq, Prod.mk.injEq] at h
        have := congrArg List.length h.2
        omega

/-- All requests of a channel that ends after these bytes. -/
def requests (max : UInt64) (bytes : List UInt8) : List Request :=
  match _h : next? max bytes with
  | none => []
  | some (request, rest) => request :: requests max rest
termination_by bytes.length
decreasing_by exact length_rest_lt (by assumption)

/-- What follows every response. -/
def responseEnd : String := "\n\x04\n"

/-- A response as it is sent. -/
def framed (response : String) : String :=
  response ++ responseEnd

/-- Responses as they are sent, one after another. -/
def framedAll (responses : List String) : String :=
  String.join (responses.map framed)

end Channel

end TextTables
