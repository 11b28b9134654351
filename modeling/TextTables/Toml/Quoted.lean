import TextTables.Toml.Lexeme

/-!
# Strings between quotes

The text that a quoted word stands for.  Between double quotes a backslash
begins an escape; between three of them it may also hide the end of a line.
Ends of lines stay as they are written, with a carriage return or without.
-/

namespace TextTables.Toml

/-- The value of a hexadecimal digit. -/
def hexDigit? (c : Char) : Option Nat :=
  if '0' ≤ c ∧ c ≤ '9' then some (c.toNat - '0'.toNat)
  else if 'a' ≤ c ∧ c ≤ 'f' then some (c.toNat - 'a'.toNat + 10)
  else if 'A' ≤ c ∧ c ≤ 'F' then some (c.toNat - 'A'.toNat + 10)
  else none

/-- Takes the code point of a character in `count` hexadecimal digits, after
digits worth `value`. -/
def codePoint? : (count value : Nat) → List Char → Option (Char × List Char)
  | 0, value, cs => if value.isValidChar then some (Char.ofNat value, cs) else none
  | _ + 1, _, [] => none
  | count + 1, value, c :: rest =>
    match hexDigit? c with
    | some digit => codePoint? count (0x10 * value + digit) rest
    | none => none

/-- Takes what a backslash stands before, as the character that is meant. -/
def escape? : List Char → Option (Char × List Char)
  | 'b' :: rest => some ('\x08', rest)
  | 't' :: rest => some ('\t', rest)
  | 'n' :: rest => some ('\n', rest)
  | 'f' :: rest => some ('\x0c', rest)
  | 'r' :: rest => some ('\r', rest)
  | 'e' :: rest => some ('\x1b', rest)
  | '"' :: rest => some ('"', rest)
  | '\\' :: rest => some ('\\', rest)
  | 'x' :: rest => codePoint? 2 0 rest
  | 'u' :: rest => codePoint? 4 0 rest
  | 'U' :: rest => codePoint? 8 0 rest
  | _ => none

/-- Passes over blanks and ends of lines. -/
def afterSpace : List Char → List Char
  | [] => []
  | '\r' :: '\n' :: rest => afterSpace rest
  | c :: rest => if isBlank c || c == '\n' then afterSpace rest else c :: rest

/-- What comes after a backslash at the end of a line: the text goes on behind
all blanks and ends of lines. -/
def continued? (cs : List Char) : Option (List Char) :=
  match cs.dropWhile isBlank with
  | '\n' :: rest => some (afterSpace rest)
  | '\r' :: '\n' :: rest => some (afterSpace rest)
  | _ => none

namespace Quoting

/-- The text of characters between the quotes, at most `bound` of them, after
the text in `read`, which is given last first. -/
def textUpTo (q : Quoting) : (bound : Nat) → (read : List Char) → List Char → Option String
  | _, read, [] => some (String.ofList read.reverse)
  | 0, _, _ :: _ => none
  | bound + 1, read, c :: rest =>
    if q.double && c == '\\' then
      match if q.block then continued? rest else none with
      | some rest => textUpTo q bound read rest
      | none =>
        match escape? rest with
        | some (c, rest) => textUpTo q bound (c :: read) rest
        | none => none
    else if isPlain c then textUpTo q bound (c :: read) rest
    else if q.block && c == '\n' then textUpTo q bound (c :: read) rest
    else if q.block && c == '\r' && rest.head? == some '\n' then
      textUpTo q bound (c :: read) rest
    else none

/-- The characters before the closing quotes.  An end of line right behind the
three opening quotes does not count. -/
def inside? (q : Quoting) (cs : List Char) : Option (List Char) :=
  if q.fence.isSuffixOf cs then
    let inner := cs.take (cs.length - q.fence.length)
    match q.block, inner with
    | true, '\n' :: rest => some rest
    | true, '\r' :: '\n' :: rest => some rest
    | _, inner => some inner
  else
    none

/-- The text that a string stands for. -/
def text? (q : Quoting) (cs : List Char) : Option String := do
  let inner ← q.inside? cs
  q.textUpTo inner.length [] inner

end Quoting

end TextTables.Toml
