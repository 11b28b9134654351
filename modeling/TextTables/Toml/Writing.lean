/-!
# Writing TOML strings

A string is written in the plainest form that needs no escapes: between double
quotes, between single quotes, and the forms that go over several lines.  Where
every form needs escapes, it is written between double quotes with escapes.
-/

namespace TextTables.Toml

/-- The forms in which a string may be written. -/
inductive Form where
  | basic
  | literal
  | basicBlock
  | literalBlock
deriving Repr, DecidableEq

/-- The length of the longest run of a character. -/
def longestRun (c : Char) (cs : List Char) : Nat :=
  go 0 0 cs
where
  /-- Reads on after a run of the character, with the longest run so far. -/
  go (run longest : Nat) : List Char → Nat
    | [] => max run longest
    | d :: rest => if d == c then go (run + 1) longest rest else go 0 (max run longest) rest

/-- A control character other than the tab and the line feed, which can only be
written as an escape. -/
def needsEscape (c : Char) : Bool :=
  c != '\t' && c != '\n' && (c.toNat.blt 0x20 || c.toNat == 0x7F)

/-- The form that a string is written in. -/
def Form.choose (cs : List Char) : Form :=
  let codes := cs.any needsEscape
  let backslash := cs.contains '\\'
  let newline := cs.contains '\n'
  let double := longestRun '"' cs
  let single := longestRun '\x27' cs
  if !codes && !backslash && double == 0 && !newline then .basic
  else if !codes && single == 0 && !newline then .literal
  else if !codes && !backslash && double ≤ 2 then .basicBlock
  else if !codes && single ≤ 2 then .literalBlock
  else if newline then .basicBlock
  else .basic

/-- A hexadecimal digit. -/
def hexDigit (n : Nat) : Char :=
  if n < 10 then Char.ofNat ('0'.toNat + n) else Char.ofNat ('A'.toNat + (n - 10))

/-- A character between double quotes, as it is or escaped. -/
def writeChar (block : Bool) (c : Char) : List Char :=
  if c == '\x08' then ['\\', 'b']
  else if c == '\t' then ['\\', 't']
  else if c == '\n' then if block then ['\n'] else ['\\', 'n']
  else if c == '\x0c' then ['\\', 'f']
  else if c == '\r' then ['\\', 'r']
  else if c == '"' then ['\\', '"']
  else if c == '\\' then ['\\', '\\']
  else if needsEscape c then
    ['\\', 'u', '0', '0', hexDigit (c.toNat / 0x10), hexDigit (c.toNat % 0x10)]
  else [c]

/-- Characters between double quotes over several lines.  One or two double
quotes in a row stay as they are. -/
def writeBlock (run : Nat) : List Char → List Char
  | [] => []
  | c :: rest =>
    if c == '"' then
      if run < 2 then '"' :: writeBlock (run + 1) rest
      else '\\' :: '"' :: writeBlock 0 rest
    else writeChar true c ++ writeBlock 0 rest

/-- A string as it is written in a document. -/
def writeString (s : String) : String :=
  let cs := s.toList
  let opening : List Char := if cs.contains '\n' then ['\n'] else []
  let written :=
    match Form.choose cs with
    | .basic => '"' :: cs.flatMap (writeChar false) ++ ['"']
    | .literal => '\x27' :: cs ++ ['\x27']
    | .basicBlock => ['"', '"', '"'] ++ opening ++ writeBlock 0 cs ++ ['"', '"', '"']
    | .literalBlock =>
      ['\x27', '\x27', '\x27'] ++ opening ++ cs ++ ['\x27', '\x27', '\x27']
  String.ofList written

end TextTables.Toml
