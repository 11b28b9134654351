import TextTables.Number.Scientific

/-!
# TOML values

The data of a TOML document.  A table remembers how it came about, because that
decides whether a later part of the document may add to it.
-/

namespace TextTables.Toml

/-- How a table came about. -/
inductive Origin where
  /-- By a header of its own. -/
  | header
  /-- On the way to the table of a longer header. -/
  | implied
  /-- On the way of a dotted key. -/
  | dotted
  /-- Between braces. -/
  | inline
deriving Repr, DecidableEq

/-- A value of a document.  Times are kept as written. -/
inductive Value where
  | string (text : String)
  /-- A whole number.  Digits that make no number have no value. -/
  | integer (value : Option Int)
  /-- A number with a fraction or an exponent, without its sign.  Infinity and no
  number have no digits. -/
  | fraction (value : Option Scientific)
  | boolean (value : Bool)
  | time (text : String)
  | array (items : List Value)
  | table (origin : Origin) (entries : List (String × Value))
  /-- Tables under one header that may be repeated, in their order. -/
  | tables (items : List (List (String × Value)))

mutual

/-- Whether every number in a value can be used: a whole number needs at most 128
bits, with a sign or without, and any other number is finite as a double. -/
def Value.isUsable : Value → Bool
  | .integer value => value.any fun value => -2 ^ 127 ≤ value && value < 2 ^ 128
  | .fraction value => value.all Scientific.isFinite
  | .array items => Value.areUsable items
  | .table _ entries => Value.entriesAreUsable entries
  | .tables items => Value.tablesAreUsable items
  | .string _ | .boolean _ | .time _ => true

/-- Whether every number in values can be used. -/
def Value.areUsable : List Value → Bool
  | [] => true
  | item :: rest => item.isUsable && Value.areUsable rest

/-- Whether every number in the entries of a table can be used. -/
def Value.entriesAreUsable : List (String × Value) → Bool
  | [] => true
  | (_, item) :: rest => item.isUsable && Value.entriesAreUsable rest

/-- Whether every number in tables can be used. -/
def Value.tablesAreUsable : List (List (String × Value)) → Bool
  | [] => true
  | item :: rest => Value.entriesAreUsable item && Value.tablesAreUsable rest

end

/-- The entries of a table, in the order of the document. -/
abbrev Entries := List (String × Value)

namespace Entries

/-- The value under a key. -/
def get? (entries : Entries) (key : String) : Option Value :=
  (entries.find? fun entry => entry.1 == key).map Prod.snd

/-- Puts a value under a key: in place of the one there, or at the end. -/
def put (entries : Entries) (key : String) (value : Value) : Entries :=
  if (get? entries key).isSome then
    entries.map fun entry => if entry.1 == key then (key, value) else entry
  else
    entries ++ [(key, value)]

/-- Changes the last item of a list that has one. -/
def changeLast (f : α → Option α) : List α → Option (List α)
  | [] => none
  | [item] => (f item).map fun item => [item]
  | item :: rest => (changeLast f rest).map (item :: ·)

/-- Adds a value under a dotted key.  The key must be new.  The tables on the way
become dotted, so they must not have a header or braces of their own.  The way
may lead through the last of repeated tables, but not end in it. -/
def add (value : Value) : List String → Entries → Option Entries
  | [], _ => none
  | [key], entries =>
    if (get? entries key).isSome then none else some (put entries key value)
  | key :: next :: rest, entries =>
    let dotted (inner : Entries) : Option Entries :=
      (add value (next :: rest) inner).map fun inner => put entries key (.table .dotted inner)
    match get? entries key with
    | none => dotted []
    | some (.table .implied inner) => dotted inner
    | some (.table .dotted inner) => dotted inner
    | some (.tables items) =>
      if rest.isEmpty then none
      else
        (changeLast (add value (next :: rest)) items).map fun items =>
          put entries key (.tables items)
    | some _ => none

/-- The entries that the table of a header begins with: those that it got while
it was implied.  A table that was defined can't be opened again. -/
def opened? : List String → Entries → Option Entries
  | [], _ => none
  | [key], entries =>
    match get? entries key with
    | none => some []
    | some (.table .implied inner) => some inner
    | some _ => none
  | key :: next :: rest, entries =>
    match get? entries key with
    | none => some []
    | some (.table .inline _) => none
    | some (.table _ inner) => opened? (next :: rest) inner
    | some (.tables items) => (items.getLast?).bind (opened? (next :: rest))
    | some _ => none

/-- Follows the keys of a header and changes the entries around the last key with
`f`.  Tables that are missing on the way are implied; of repeated tables the last
one is meant. -/
def atHeader (f : String → Entries → Option Entries) : List String → Entries → Option Entries
  | [], _ => none
  | [key], entries => f key entries
  | key :: next :: rest, entries =>
    match get? entries key with
    | none => (atHeader f (next :: rest) []).map fun inner =>
        put entries key (.table .implied inner)
    | some (.table .inline _) => none
    | some (.table origin inner) =>
      (atHeader f (next :: rest) inner).map fun inner => put entries key (.table origin inner)
    | some (.tables items) =>
      (changeLast (atHeader f (next :: rest)) items).map fun items =>
        put entries key (.tables items)
    | some _ => none

/-- Puts the table of a header in its place. -/
def putTable (table : Entries) : List String → Entries → Option Entries :=
  atHeader fun key entries => some (put entries key (.table .header table))

/-- Puts one more table of a header that may be repeated behind the others. -/
def putItem (table : Entries) : List String → Entries → Option Entries :=
  atHeader fun key entries =>
    match get? entries key with
    | none => some (put entries key (.tables [table]))
    | some (.tables items) => some (put entries key (.tables (items ++ [table])))
    | some _ => none

end Entries

end TextTables.Toml
