import TextTables.Channel.Service
import TextTables.Invocation.Execution

/-!
# The program

Everything that touches the world: arguments, the environment, files and the
standard streams.  The files below the storage directory are read into a tree
before a command, and what the command changed in the tree is written back after
it.  The server answers the requests on standard input.
-/

namespace TextTables.Program

/-- The version that the program tells. -/
def version : String := "0.1.0"

/-- Reads the files below a directory of the world. -/
partial def readTree (directory : String) : IO FileTree := do
  let entries ← ((← IO.currentDir) / directory).readDir
  let mut found : List (String × FileTree) := []
  for entry in entries do
    let path := entry.path.toString
    let inner ←
      if ← entry.path.isDir then readTree path
      else pure (FileTree.file (← IO.FS.readBinFile path))
    found := Assoc.insert entry.fileName inner found
  return .directory found

/-- Removes from the world what a tree holds. -/
partial def removeTree (path : String) : FileTree → IO Unit
  | .file _ => IO.FS.removeFile path
  | .directory entries => do
    for (name, inner) in entries do
      removeTree (path ++ "/" ++ name) inner
    IO.FS.removeDir path

/-- Changes the world at a path from one tree to another. -/
partial def writeTree (path : String) : (before after : FileTree) → IO Unit
  | .file old, .file new => do
    if old != new then IO.FS.writeBinFile path new
  | .directory old, .directory new => do
    for (name, inner) in old do
      if (Assoc.get? new name).isNone then removeTree (path ++ "/" ++ name) inner
    for (name, inner) in new do
      let place := path ++ "/" ++ name
      match Assoc.get? old name with
      | some known => writeTree place known inner
      | none =>
        match inner with
        | .file content => IO.FS.writeBinFile place content
        | .directory _ =>
          IO.FS.createDirAll place
          writeTree place .empty inner
  | before, .file content => do
    removeTree path before
    IO.FS.writeBinFile path content
  | before, after => do
    removeTree path before
    IO.FS.createDirAll path
    writeTree path .empty after

/-- The store in a directory of the world, which is made if it is missing. -/
def openStore (directory : String) : IO Directory := do
  IO.FS.createDirAll directory
  return Directory.ofTree (← readTree directory)

/-- Writes back what became of a store. -/
def saveStore (directory : String) (before after : Directory) : IO Unit := do
  match before.tree.lookup before.root, after.tree.lookup after.root with
  | .ok old, .ok new => writeTree directory old new
  | _, _ => return ()

/-- A tree that holds a file of the world, if it can be read. -/
def fileTree (name : String) : IO Workspace := do
  let empty : Workspace := ⟨.empty, []⟩
  try
    let content ← IO.FS.readBinFile name
    let path := empty.path name
    let (_, tree) := empty.tree.makeDirectories { path with steps := path.steps.dropLast }
    match tree.putFile path content with
    | .ok tree => return { empty with tree := tree }
    | .error _ => return empty
  catch _ => return empty

/-- The settings that the environment of the program gives. -/
def environment : IO Environment := do
  let mut given : List (String × String) := []
  for name in Environment.variableNames do
    if let some value ← IO.getEnv name then
      given := (name, value) :: given
  return Environment.ofLookup fun name => given.lookup name

/-- Executes a query on the tables of the world. -/
def runQuery (settings : Settings) (text : String) (database : Option String) : IO Unit := do
  let store ← openStore settings.storageDirectory
  let (reply, after) := (Session.start store).query text database
  saveStore settings.storageDirectory store after.store
  IO.println reply.toText

/-- Answers the requests on standard input, one line after another. -/
partial def runServer (settings : Settings) : IO Unit := do
  let input ← IO.getStdin
  let output ← IO.getStdout
  let rec go (s : Session Directory) : IO Unit := do
    let line ← input.getLine
    unless line.isEmpty do
      let (sent, after) :=
        Channel.serve settings.maxStatementLength s (Text.Utf8.encode line)
      saveStore settings.storageDirectory s.store after.store
      output.putStr sent
      output.flush
      go after
  go (Session.start (← openStore settings.storageDirectory))

/-- Carries out a command line that is understood. -/
def run (invocation : Invocation) : IO UInt32 := do
  let workspace ← fileTree (invocation.settingsFile.getD Settings.defaultFile)
  match Settings.load workspace (← environment) invocation with
  | .error fault =>
    IO.eprintln ("Error: " ++ fault.message)
    return 1
  | .ok settings =>
    match invocation.command with
    | some (.query text database) => runQuery settings text database
    | some (.server _ _) => runServer settings
    | some .info =>
      IO.println ("tabdb " ++ version)
      IO.println ("Storage: " ++ settings.storageDirectory)
      IO.println ("Listen: " ++ settings.host ++ ":" ++ Nat.repr settings.port.toNat)
    | none =>
      IO.println ("tabdb v" ++ version)
      IO.println "Use --help for usage"
    return 0

end TextTables.Program

/-- Runs the program.  The exit code is 2 if its arguments are not understood. -/
def main (arguments : List String) : IO UInt32 := do
  match TextTables.Invocation.ofArguments? arguments with
  | some invocation => TextTables.Program.run invocation
  | none =>
    IO.eprintln "usage: [--config FILE] [--storage-dir DIR] [--log-level LEVEL] [COMMAND]"
    return 2
