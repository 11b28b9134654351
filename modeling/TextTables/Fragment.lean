import TextTables.Fault
import TextTables.Text.Blank

/-!
# Fragments of a statement

The text of a statement is cut at single quotes.  What stands between a quote
and the next is one fragment, a literal, whatever it holds.  Everything else is
cut at blank characters, around the two-character comparison signs and around
the marks that stand alone; the pieces left over are runs of other characters.
-/

namespace TextTables.Fragment

open Text (isBlank)

/-- The mark around literals. -/
def quote : Char := '\x27'

/-- The marks that are fragments of their own. -/
def loneMarks : List Char := ['(', ')', ',', ';', '*', '<', '>', '=']

/-- The pairs `==`, `!=`, `<=` and `>=`, which are one fragment. -/
def isPair (c d : Char) : Bool :=
  d == '=' && (c == '=' || c == '!' || c == '<' || c == '>')

/-- The fragment that a run of characters makes, if there is one.  The run is
given last character first. -/
def ofRun : List Char → List (List Char)
  | [] => []
  | run => [run.reverse]

/-- Cuts unquoted text that follows the run read so far. -/
def piecesAfter (run : List Char) : List Char → List (List Char)
  | [] => ofRun run
  | c :: rest =>
    if isBlank c then ofRun run ++ piecesAfter [] rest
    else
      match rest with
      | d :: tail =>
        if isPair c d then ofRun run ++ [c, d] :: piecesAfter [] tail
        else if loneMarks.contains c then ofRun run ++ [c] :: piecesAfter [] (d :: tail)
        else piecesAfter (c :: run) (d :: tail)
      | [] =>
        if loneMarks.contains c then ofRun run ++ [[c]]
        else ofRun (c :: run)

/-- Cuts unquoted text. -/
def pieces (cs : List Char) : List (List Char) :=
  piecesAfter [] cs

/-- A literal with its quotes. -/
def literal (content : List Char) : List Char :=
  quote :: content ++ [quote]

/-- The fragments of the spans between quotes, which are by turns outside and
inside a literal. -/
def ofSpans : Bool → List (List Char) → Except Fault (List (List Char))
  | _, [] => .ok []
  | false, span :: rest => do
    let more ← ofSpans true rest
    return pieces span ++ more
  | true, span :: rest =>
    if span.contains '\t' then .error .tabInLiteral
    else do
      let more ← ofSpans false rest
      return literal span :: more

/-- Cuts the characters of a statement. -/
def ofChars (cs : List Char) : Except Fault (List (List Char)) :=
  let spans := cs.splitOn quote
  if spans.length % 2 == 0 then .error .unterminatedLiteral
  else ofSpans false spans

/-- Cuts the text of a statement into fragments. -/
def ofText (s : String) : Except Fault (List String) :=
  (ofChars s.toList).map fun fragments => fragments.map String.ofList

end TextTables.Fragment
