import TextTables.Toml.Outline

/-!
# The tables of a TOML document

The lines of an outline are taken one after another: their words get a meaning,
and their values a place.  The table under a header is collected by itself, and
goes to its place when the next header comes or the document ends.  The first
line that breaks a rule decides why the document has no tables.
-/

namespace TextTables.Toml

/-- Why a document has no tables. -/
inductive Refusal where
  /-- Something is wrong at a place of the document. -/
  | malformed
  /-- A key has too many parts. -/
  | keyTooLong
deriving Repr, DecidableEq

namespace Refusal

/-- What there is, or a document that is wrong at some place. -/
def orMalformed : Option α → Except Refusal α
  | some a => .ok a
  | none => .error .malformed

end Refusal

open Refusal

/-- The greatest number of parts of a key. -/
def longestKey : Nat := 80

/-- The key that words with points between them stand for. -/
def keyOf (path : List Word) : Except Refusal (List String) := do
  let keys ← orMalformed (path.mapM Word.key?)
  if longestKey < keys.length then throw .keyTooLong
  return keys

mutual

/-- The value that a written one stands for. -/
def Written.value : Written → Except Refusal Value
  | .word w => orMalformed w.value?
  | .array items => do return .array (← Written.values items)
  | .table entries => do return .table .inline (← Written.entries entries [])

/-- The values that written ones stand for. -/
def Written.values : List Written → Except Refusal (List Value)
  | [] => return []
  | item :: rest => do
    let value ← Written.value item
    return value :: (← Written.values rest)

/-- The entries of a table between braces, added to those that came before. -/
def Written.entries : List (List Word × Written) → Entries → Except Refusal Entries
  | [], entries => return entries
  | (path, item) :: rest, entries => do
    let keys ← keyOf path
    let value ← Written.value item
    Written.entries rest (← orMalformed (Entries.add value keys entries))

end

/-- The header of a table: its key, and whether it may be repeated. -/
structure Header where
  repeated : Bool
  keys : List String
deriving Repr, DecidableEq

/-- A document in part: the tables that are in their place, and the one that is
open, with its header.  The table before the first header has none. -/
structure Draft where
  closed : Entries
  header : Option Header
  table : Entries

namespace Draft

/-- A document that has not been begun. -/
def blank : Draft := ⟨[], none, []⟩

/-- The tables of a document when the open one has gone to its place. -/
def close? (draft : Draft) : Option Entries :=
  match draft.header with
  | none => some draft.table
  | some ⟨true, keys⟩ => Entries.putItem draft.table keys draft.closed
  | some ⟨false, keys⟩ => Entries.putTable draft.table keys draft.closed

/-- Takes a line of a document. -/
def add (draft : Draft) : Line → Except Refusal Draft
  | .header repeated path => do
    let closed ← orMalformed draft.close?
    let keys ← keyOf path
    let table ← if repeated then pure [] else orMalformed (Entries.opened? keys closed)
    return ⟨closed, some ⟨repeated, keys⟩, table⟩
  | .entry path item => do
    let keys ← keyOf path
    let value ← item.value
    return { draft with table := ← orMalformed (Entries.add value keys draft.table) }

end Draft

/-- The entries of a document. -/
def Entries.ofText (text : String) : Except Refusal Entries := do
  let lines ← orMalformed (Line.ofText? text)
  let draft ← lines.foldlM Draft.add .blank
  orMalformed draft.close?

end TextTables.Toml
