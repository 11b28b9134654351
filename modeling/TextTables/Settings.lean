import TextTables.Fault
import TextTables.Number.Whole

/-!
# Settings

Where the tables are kept, where requests come from, how long a statement may
be, and how much is logged.  Settings come from defaults and a file, and the
environment overrides single ones.
-/

namespace TextTables

/-- The settings of the program. -/
structure Settings where
  storageDirectory : String
  host : String
  port : UInt16
  maxStatementLength : UInt64
  level : String
deriving Repr, DecidableEq

/-- The settings that the environment gives. -/
structure Environment where
  storageDirectory : Option String
  host : Option String
  port : Option String
  level : Option String
deriving Repr, DecidableEq

namespace Environment

/-- The names of the variables, in the order of the fields. -/
def variableNames : List String :=
  ["TABDB_STORAGE_DIR", "TABDB_HOST", "TABDB_PORT", "TABDB_LOG_LEVEL"]

/-- The environment that a look-up of variables gives. -/
def ofLookup (value? : String → Option String) : Environment where
  storageDirectory := value? "TABDB_STORAGE_DIR"
  host := value? "TABDB_HOST"
  port := value? "TABDB_PORT"
  level := value? "TABDB_LOG_LEVEL"

end Environment

namespace Settings

/-- The settings when nothing else is said. -/
def default : Settings where
  storageDirectory := "databases"
  host := "127.0.0.1"
  port := 8888
  maxStatementLength := 65536
  level := "info"

instance : Inhabited Settings := ⟨default⟩

/-- Reads a port. -/
def port? (s : String) : Option UInt16 :=
  (Whole.unsigned? 16 s).map UInt16.ofNat

/-- Overrides settings from the environment. -/
def override (settings : Settings) (env : Environment) : Except Fault Settings := do
  let port ←
    match env.port with
    | none => pure settings.port
    | some text =>
      match port? text with
      | some port => pure port
      | none => throw (.invalidPort text)
  return {
    settings with
    storageDirectory := env.storageDirectory.getD settings.storageDirectory
    host := env.host.getD settings.host
    port := port
    level := env.level.getD settings.level }

/-- Whether the program can work with the settings. -/
def validate (settings : Settings) : Except Fault Unit :=
  if settings.storageDirectory == "" then .error .emptyStorageDirectory
  else if settings.port == 0 then .error .zeroPort
  else if settings.maxStatementLength == 0 then .error .zeroStatementLength
  else .ok ()

end Settings

end TextTables
