import TextTables.Settings

/-!
# Command lines

The arguments of the program: options that may stand anywhere, a command, and
options of that command.  An option takes a value, in the same argument or in the
next one; it is given at most once before the command and once after it, where
the later one counts.  Arguments that break a rule have no meaning at all.
-/

namespace TextTables

/-- What the program is asked to do. -/
inductive Command where
  | server (port : Option UInt16) (host : Option String)
  | query (text : String) (database : Option String)
  | info
deriving Repr, DecidableEq

/-- A command line that is understood. -/
structure Invocation where
  settingsFile : Option String
  storageDirectory : Option String
  level : Option String
  command : Option Command
deriving Repr, DecidableEq

namespace Invocation

/-- The options. -/
inductive Flag where
  | settingsFile
  | storageDirectory
  | level
  | port
  | host
  | database
deriving Repr, DecidableEq

/-- The parts of a command line: before the command, and after each command. -/
inductive Scope where
  | top
  | server
  | query
  | info
deriving Repr, DecidableEq

namespace Flag

/-- The name of an option after two dashes. -/
def longName : Flag → String
  | settingsFile => "config"
  | storageDirectory => "storage-dir"
  | level => "log-level"
  | port => "port"
  | host => "host"
  | database => "database"

/-- The letter of an option after one dash. -/
def letter? : Flag → Option Char
  | settingsFile => some 'c'
  | port => some 'p'
  | database => some 'd'
  | _ => none

/-- The port that a value of an option stands for. -/
def portOf? (value : String) : Option UInt16 :=
  match Whole.signed? value with
  | some number =>
    if 0 ≤ number ∧ number < 65536 then some (UInt16.ofNat number.toNat) else none
  | none => none

/-- Whether an option may have a value.  Paths are not empty, and a port is a
number. -/
def admits : Flag → String → Bool
  | settingsFile, value | storageDirectory, value => value != ""
  | port, value => (portOf? value).isSome
  | _, _ => true

end Flag

namespace Scope

/-- The options that a part of a command line may hold. -/
def flags : Scope → List Flag
  | top | info => [.settingsFile, .storageDirectory, .level]
  | server => [.settingsFile, .storageDirectory, .level, .port, .host]
  | query => [.settingsFile, .storageDirectory, .level, .database]

/-- The scope after a command. -/
def ofCommand? (name : String) : Option Scope :=
  if name == "server" then some server
  else if name == "query" then some query
  else if name == "info" then some info
  else none

end Scope

/-- What is found in one part of a command line. -/
structure Given where
  flags : List (Flag × String)
  text : Option String

namespace Given

/-- Nothing found. -/
def nothing : Given := ⟨[], none⟩

/-- The value of an option. -/
def value? (given : Given) (flag : Flag) : Option String :=
  given.flags.lookup flag

/-- Adds an option that is not given yet. -/
def addFlag (given : Given) (flag : Flag) (value : String) : Option Given :=
  if (given.value? flag).isSome || !flag.admits value then none
  else some { given with flags := (flag, value) :: given.flags }

/-- Adds the text of a query, where one is expected and not given yet. -/
def addText (given : Given) (scope : Scope) (text : String) : Option Given :=
  if scope == .query && given.text.isNone then some { given with text := some text }
  else none

end Given

/-- The forms of one argument. -/
inductive Argument where
  /-- Two dashes, after which nothing is an option. -/
  | separator
  /-- An option by its name, with its value if it is in the same argument. -/
  | long (name : String) (value : Option String)
  /-- An option by its letter, with its value if it is in the same argument. -/
  | short (letter : Char) (value : Option String)
  /-- Anything else. -/
  | plain (text : String)

/-- The form of an argument. -/
def Argument.ofText (text : String) : Argument :=
  match text.toList with
  | ['-', '-'] => .separator
  | '-' :: '-' :: rest =>
    match rest.dropWhile (· != '=') with
    | [] => .long (String.ofList rest) none
    | _ :: value => .long (String.ofList (rest.takeWhile (· != '='))) (some (String.ofList value))
  | ['-'] => .plain text
  | '-' :: letter :: rest =>
    match rest with
    | [] => .short letter none
    | '=' :: value => .short letter (some (String.ofList value))
    | value => .short letter (some (String.ofList value))
  | _ => .plain text

/-- Where the reader of arguments stands. -/
inductive Place where
  /-- Anything may come. -/
  | free
  /-- The value of an option has to come. -/
  | valueOf (flag : Flag)
  /-- No more options come. -/
  | plainOnly

/-- Reads the arguments of one part of a command line, up to the command if one
comes: what is found, and the command with the arguments after it. -/
def readScope (scope : Scope) (place : Place) (given : Given) :
    List String → Option (Given × Option (Scope × List String))
  | [] =>
    match place with
    | .valueOf _ => none
    | _ => some (given, none)
  | text :: rest =>
    match place, Argument.ofText text with
    | .plainOnly, _ => do readScope scope .plainOnly (← given.addText scope text) rest
    | .valueOf flag, .plain value => do readScope scope .free (← given.addFlag flag value) rest
    | .valueOf _, _ => none
    | .free, .separator => readScope scope .plainOnly given rest
    | .free, .long name value? =>
      match scope.flags.find? (·.longName == name), value? with
      | none, _ => none
      | some flag, some value => do readScope scope .free (← given.addFlag flag value) rest
      | some flag, none => readScope scope (.valueOf flag) given rest
    | .free, .short letter value? =>
      match scope.flags.find? (·.letter? == some letter), value? with
      | none, _ => none
      | some flag, some value => do readScope scope .free (← given.addFlag flag value) rest
      | some flag, none => readScope scope (.valueOf flag) given rest
    | .free, .plain text =>
      if scope == .top then
        match Scope.ofCommand? text with
        | some command => some (given, some (command, rest))
        | none => none
      else do
        readScope scope .free (← given.addText scope text) rest

/-- The command that is given by what follows its name. -/
def commandOf? (scope : Scope) (given : Given) : Option Command :=
  match scope with
  | .top => none
  | .server => some (.server ((given.value? .port).bind Flag.portOf?) (given.value? .host))
  | .query => given.text.map fun text => .query text (given.value? .database)
  | .info => some .info

/-- The meaning of the arguments, if they have one. -/
def ofArguments? (arguments : List String) : Option Invocation := do
  let (before, command?) ← readScope .top .free .nothing arguments
  match command? with
  | none =>
    return {
      settingsFile := before.value? .settingsFile
      storageDirectory := before.value? .storageDirectory
      level := before.value? .level
      command := none }
  | some (scope, arguments) =>
    let (after, _) ← readScope scope .free .nothing arguments
    let last (flag : Flag) : Option String := (after.value? flag).or (before.value? flag)
    return {
      settingsFile := last .settingsFile
      storageDirectory := last .storageDirectory
      level := last .level
      command := some (← commandOf? scope after) }

end Invocation

end TextTables
