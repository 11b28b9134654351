/-!
# Lexemes of a TOML document

A document is cut into marks, words, blanks and ends of lines.  A comment is
nothing but the end of its line and leaves no lexeme.  A word is kept as it is
written: whether it is a good key or a good value is found out where it stands.
-/

namespace TextTables.Toml

/-- A blank inside a line. -/
def isBlank (c : Char) : Bool :=
  c == ' ' || c == '\t'

/-- A character that may stand in a comment or a string as it is. -/
def isPlain (c : Char) : Bool :=
  c == '\t' || (0x20).ble c.toNat && c.toNat != 0x7F

/-- A mark between words. -/
def isMark (c : Char) : Bool :=
  ['.', '=', ',', '[', ']', '\x7b', '\x7d'].contains c

/-- A character that ends a word without quotes. -/
def endsWord (c : Char) : Bool :=
  isMark c || isBlank c || c == '#' || c == '\r' || c == '\n'

/-- The quotes around a string: whether they are double, so that a backslash
escapes, and whether they are three, so that the string may have several lines. -/
structure Quoting where
  double : Bool
  block : Bool
deriving Repr, DecidableEq

namespace Quoting

/-- The quote that is used. -/
def quote (q : Quoting) : Char :=
  if q.double then '"' else '\x27'

/-- The quotes before and after the string. -/
def fence (q : Quoting) : List Char :=
  List.replicate (if q.block then 3 else 1) q.quote

/-- Whether a backslash and the character after it hide that character from the
search for the end of the string. -/
def hides (q : Quoting) (backslash c : Char) : Bool :=
  q.double && backslash == '\\' && (c == '\\' || c == '"')

end Quoting

/-- A key or a value as it is written. -/
inductive Word where
  /-- Characters without quotes.  Where a word is missing there are none. -/
  | bare (cs : List Char)
  /-- What follows the opening quotes of a string, to the closing ones if they
  are there. -/
  | quoted (quoting : Quoting) (cs : List Char)
deriving Repr, DecidableEq

/-- The pieces of a document. -/
inductive Lexeme where
  | mark (c : Char)
  | word (w : Word)
  /-- Blanks inside a line. -/
  | blank (cs : List Char)
  | lineBreak
deriving Repr, DecidableEq

namespace Lexeme

/-- Cuts off the rest of a string of one line, after the characters `read`, which
are given last first.  It ends with its quote, or before the end of the line. -/
def cutLine (q : Quoting) (read : List Char) : List Char → List Char × List Char
  | [] => (read.reverse, [])
  | '\n' :: rest => (read.reverse, '\n' :: rest)
  | [c] => ((c :: read).reverse, [])
  | c :: d :: rest =>
    if c == q.quote then ((c :: read).reverse, d :: rest)
    else if q.hides c d then cutLine q (d :: c :: read) rest
    else cutLine q (c :: read) (d :: rest)

/-- Cuts off the rest of a string of several lines, after the characters `read`,
which are given last first.  Up to two quotes more may follow the three that end
it, and then the first ones belong to its text. -/
def cutBlock (q : Quoting) (read : List Char) : List Char → List Char × List Char
  | [] => (read.reverse, [])
  | [c] => ((c :: read).reverse, [])
  | c :: d :: rest =>
    if q.fence.isPrefixOf (c :: d :: rest) then
      let quotes := min ((c :: d :: rest).takeWhile (· == q.quote)).length 5
      (read.reverse ++ List.replicate quotes q.quote, (c :: d :: rest).drop quotes)
    else if q.hides c d then cutBlock q (d :: c :: read) rest
    else cutBlock q (c :: read) (d :: rest)

/-- Cuts off a string after its first quote. -/
def cutString (double : Bool) (cs : List Char) : Word × List Char :=
  let line : Quoting := ⟨double, false⟩
  match cs with
  | c :: d :: rest =>
    if c == line.quote && d == line.quote then
      let block : Quoting := ⟨double, true⟩
      let (text, rest) := cutBlock block [] rest
      (.quoted block text, rest)
    else
      let (text, rest) := cutLine line [] (c :: d :: rest)
      (.quoted line text, rest)
  | cs =>
    let (text, rest) := cutLine line [] cs
    (.quoted line text, rest)

/-- Cuts off what begins with a character: a lexeme or a comment, and the rest.
A carriage return has to stand before a line feed. -/
def cut? (c : Char) (rest : List Char) : Option (List Lexeme × List Char) :=
  if isMark c then some ([.mark c], rest)
  else if isBlank c then
    some ([.blank (c :: rest.takeWhile isBlank)], rest.dropWhile isBlank)
  else if c == '\n' then some ([.lineBreak], rest)
  else if c == '\r' then
    match rest with
    | '\n' :: rest => some ([.lineBreak], rest)
    | _ => none
  else if c == '#' then
    let inLine (c : Char) : Bool := c != '\n' && c != '\r'
    if (rest.takeWhile inLine).all isPlain then some ([], rest.dropWhile inLine) else none
  else if c == '"' || c == '\x27' then
    let (found, rest) := cutString (c == '"') rest
    some ([.word found], rest)
  else
    let inWord (c : Char) : Bool := !endsWord c
    some ([.word (.bare (c :: rest.takeWhile inWord))], rest.dropWhile inWord)

/-- Cuts characters into lexemes, at most `bound`, after those in `read`, which
are given last first. -/
def cutUpTo : (bound : Nat) → (read : List Lexeme) → List Char → Option (List Lexeme)
  | _, read, [] => some read.reverse
  | 0, _, _ :: _ => none
  | bound + 1, read, c :: rest =>
    match cut? c rest with
    | some (found, rest) => cutUpTo bound (found ++ read) rest
    | none => none

/-- The lexemes of a document.  A byte order mark may stand in front. -/
def ofText? (text : String) : Option (List Lexeme) :=
  let cs :=
    match text.toList with
    | '\uFEFF' :: rest => rest
    | cs => cs
  cutUpTo cs.length [] cs

end Lexeme

end TextTables.Toml
