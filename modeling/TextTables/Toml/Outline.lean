import TextTables.Toml.Scalar

/-!
# Outlines of TOML documents

The outline of a document says how its words stand to each other: which of them
are keys, which are values, and what is inside what.  It is found before any
word is asked for its meaning.  A key or a value that is missing where the
outline is clear without it is a word without characters.
-/

namespace TextTables.Toml

/-- A value as it is written. -/
inductive Written where
  | word (w : Word)
  | array (items : List Written)
  | table (entries : List (List Word × Written))

/-- The lines of a document that say something. -/
inductive Line where
  /-- The header of a table, which may be one of several under that header. -/
  | header (repeated : Bool) (path : List Word)
  | entry (path : List Word) (value : Written)

/-- A reader takes lexemes off the front of a document, if it can. -/
abbrev Reader := StateT (List Lexeme) Option

namespace Reader

/-- The lexeme that comes next. -/
def peek : Reader (Option Lexeme) := do
  return (← get).head?

/-- Takes the next lexeme. -/
def skip : Reader Unit := do
  modify List.tail

/-- Takes a mark if it comes next; says whether it did. -/
def accept (c : Char) : Reader Bool := do
  if (← peek) == some (.mark c) then
    skip
    return true
  else
    return false

/-- Takes a mark that has to come next. -/
def mark (c : Char) : Reader Unit := do
  unless ← accept c do failure

/-- Passes over blanks inside a line. -/
def blanks : Reader Unit := do
  modify fun lexemes => lexemes.dropWhile fun lexeme =>
    match lexeme with
    | .blank _ => true
    | _ => false

/-- Passes over blanks and ends of lines. -/
def gap : Reader Unit := do
  modify fun lexemes => lexemes.dropWhile fun lexeme =>
    match lexeme with
    | .blank _ => true
    | .lineBreak => true
    | _ => false

/-- Takes the end of a line or of the document, and blanks before it. -/
def endLine : Reader Unit := do
  blanks
  match ← peek with
  | none => return ()
  | some .lineBreak => skip
  | some _ => failure

/-- Passes over everything before the end of the line. -/
def restOfLine : Reader Unit := do
  modify fun lexemes => lexemes.dropWhile (· != .lineBreak)

end Reader

open Reader

namespace Outline

/-- A word that is not there. -/
def missing : Word := .bare []

/-- Takes words with points between them, at most `bound`. -/
def pathUpTo : (bound : Nat) → Reader (List Word)
  | 0 => failure
  | bound + 1 => do
    let first ←
      match ← peek with
      | some (.word w) =>
        skip
        pure w
      | _ => pure missing
    blanks
    if ← accept '.' then
      blanks
      return first :: (← pathUpTo bound)
    else
      return [first]

/-- Takes words without quotes, points and blanks that stand side by side, as they
are written but without blanks at the end. -/
def joined : Reader (List Char) := do
  let isPart (lexeme : Lexeme) : Bool :=
    match lexeme with
    | .word (.bare _) => true
    | .mark c => c == '.'
    | .blank _ => true
    | _ => false
  let chars (lexeme : Lexeme) : List Char :=
    match lexeme with
    | .word (.bare cs) => cs
    | .mark c => [c]
    | .blank cs => cs
    | _ => []
  let lexemes ← get
  set (lexemes.dropWhile isPart)
  return (((lexemes.takeWhile isPart).flatMap chars).reverse.dropWhile isBlank).reverse

/-- Takes a value that is no array and no table.  Without quotes it goes on over
points and blanks, so that a date and a time with a space between are one word. -/
def scalar : Reader Word := do
  match ← peek with
  | some (.word (.quoted q cs)) =>
    skip
    return .quoted q cs
  | _ =>
    let cs ← joined
    if cs.isEmpty then failure
    return .bare cs

/-- Takes the items of an array after its opening bracket, at most `bound`. -/
def itemsUpTo (value : Reader Written) : (bound : Nat) → Reader (List Written)
  | 0 => failure
  | bound + 1 => do
    gap
    if ← accept ']' then return []
    let item ← value
    gap
    if ← accept ',' then
      return item :: (← itemsUpTo value bound)
    else
      mark ']'
      return [item]

/-- Takes the entries of a table after its opening brace, at most `bound`.  The value
of the last one may be missing, with its equals sign or without. -/
def entriesUpTo (value : Reader Written) : (bound : Nat) → Reader (List (List Word × Written))
  | 0 => failure
  | bound + 1 => do
    gap
    if ← accept '\x7d' then return []
    let path ← pathUpTo bound
    gap
    if ← accept '\x7d' then return [(path, .word missing)]
    mark '='
    gap
    if ← accept '\x7d' then return [(path, .word missing)]
    let found ← value
    gap
    if ← accept ',' then
      return (path, found) :: (← entriesUpTo value bound)
    else
      mark '\x7d'
      return [(path, found)]

/-- Takes a value in which arrays and tables nest at most `depth` deep. -/
def valueWithin (bound : Nat) : (depth : Nat) → Reader Written
  | 0 => do return .word (← scalar)
  | depth + 1 => do
    if ← accept '[' then return .array (← itemsUpTo (valueWithin bound depth) bound)
    else if ← accept '\x7b' then return .table (← entriesUpTo (valueWithin bound depth) bound)
    else return .word (← scalar)

/-- How deep arrays and tables may nest. -/
def deepest : Nat := 80

/-- Takes the value of a line, which may be missing. -/
def value (bound : Nat) : Reader Written := do
  match ← peek with
  | none => return .word missing
  | some .lineBreak => return .word missing
  | some _ => valueWithin bound deepest

/-- Takes a header after its first bracket.  Where its last word and its bracket are
both missing, the rest of the line does not matter. -/
def header (bound : Nat) : Reader Line := do
  let repeated ← accept '['
  blanks
  let path ← pathUpTo bound
  if ← accept ']' then
    if repeated then mark ']'
  else
    unless path.getLast? == some missing do failure
    restOfLine
  return .header repeated path

/-- Takes a line that says something, or a blank one. -/
def line (bound : Nat) : Reader (Option Line) := do
  blanks
  match ← peek with
  | none => return none
  | some .lineBreak =>
    skip
    return none
  | some (.mark '[') =>
    skip
    let found ← header bound
    endLine
    return some found
  | some _ =>
    let path ← pathUpTo bound
    mark '='
    blanks
    let found ← value bound
    endLine
    return some (.entry path found)

/-- Takes at most `bound` lines, after those in `read`, which are given last
first. -/
def linesUpTo (bound : Nat) : (count : Nat) → (read : List Line) → Reader (List Line)
  | 0, _ => failure
  | count + 1, read => do
    if (← get).isEmpty then return read.reverse
    else
      match ← line bound with
      | some found => linesUpTo bound count (found :: read)
      | none => linesUpTo bound count read

end Outline

/-- The outline of a document, line by line. -/
def Line.ofText? (text : String) : Option (List Line) := do
  let lexemes ← Lexeme.ofText? text
  let bound := lexemes.length + 1
  return (← (Outline.linesUpTo bound bound []).run lexemes).1

end TextTables.Toml
