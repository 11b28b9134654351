import TextTables.Settings
import TextTables.Toml.Document
import TextTables.Toml.Writing

/-!
# Settings in a document

Settings are kept in a TOML document.  Whatever is missing in it has its default
value, and what is no setting is passed over.
-/

namespace TextTables.Settings

open Toml

/-- A value that has to be a string. -/
def text? : Value → Option String
  | .string text => some text
  | _ => none

/-- A value that has to be a whole number below `2 ^ bits`. -/
def number? (bits : Nat) : Value → Option Nat
  | .integer (some value) =>
    if 0 ≤ value ∧ value.toNat < Nat.pow 2 bits then some value.toNat else none
  | _ => none

/-- The setting that a value gives, or the default where there is none. -/
def orDefault (value? : Option Value) (read? : Value → Option α) (fallback : α) : Option α :=
  match value? with
  | none => some fallback
  | some value => read? value

/-- The values of named settings in a table, or in an array, where they stand in
the order of their names.  A date or time says nothing about any of them.  What
is no setting has to be usable all the same, but not what follows the last one in
an array. -/
def members? (names : List String) : Option Value → Option (List (Option Value))
  | none => some (names.map fun _ => none)
  | some (.time _) => some (names.map fun _ => none)
  | some (.table _ entries) =>
    if entries.all fun entry => names.contains entry.1 || entry.2.isUsable then
      some (names.map (Entries.get? entries))
    else
      none
  | some (.array items) => some ((List.range names.length).map (items[·]?))
  | some (.tables items) =>
    some ((List.range names.length).map fun i => (items[i]?).map (.table .header ·))
  | some _ => none

/-- The names of the settings of a document. -/
def sections : List String :=
  ["storage_directory", "network", "logging"]

/-- The settings in the table of a document. -/
def ofEntries? (entries : Entries) : Option Settings := do
  guard (entries.all fun entry => sections.contains entry.1 || entry.2.isUsable)
  let directory ←
    orDefault (Entries.get? entries "storage_directory") text? default.storageDirectory
  let network ← members? ["host", "port", "max_statement_length"] (Entries.get? entries "network")
  let logging ← members? ["level"] (Entries.get? entries "logging")
  let member (values : List (Option Value)) (i : Nat) : Option Value := (values[i]?).join
  return {
    storageDirectory := directory
    host := ← orDefault (member network 0) text? default.host
    port := ← orDefault (member network 1) (fun v => (number? 16 v).map UInt16.ofNat) default.port
    maxStatementLength :=
      ← orDefault (member network 2) (fun v => (number? 64 v).map UInt64.ofNat)
          default.maxStatementLength
    level := ← orDefault (member logging 0) text? default.level }

/-- The settings in the text of a document. -/
def ofDocument (text : String) : Except Fault Settings :=
  match Entries.ofText text with
  | .error .malformed => .error .unreadableSettings
  | .error .keyTooLong => .error .settingsKeyTooLong
  | .ok entries =>
    match ofEntries? entries with
    | some settings => .ok settings
    | none => .error .unreadableSettings

/-- The text of a document with all settings. -/
def toDocument (settings : Settings) : String :=
  "\n".intercalate
    ["storage_directory = " ++ writeString settings.storageDirectory,
     "",
     "[network]",
     "host = " ++ writeString settings.host,
     "port = " ++ Nat.repr settings.port.toNat,
     "max_statement_length = " ++ Nat.repr settings.maxStatementLength.toNat,
     "",
     "[logging]",
     "level = " ++ writeString settings.level,
     ""]

end TextTables.Settings
