import TextTables.Invocation
import TextTables.Session.Execution
import TextTables.Settings.Document
import TextTables.Store.Directory

/-!
# Carrying out command lines

Settings come from the file that is named, else from the file of a fixed name if
there is one, else from the defaults; then the environment and last the command
line override them.  A query is executed on the tables in the storage directory,
after the selection of a database if one is asked for.
-/

namespace TextTables

/-- A tree of files, and the place in it that relative paths begin at. -/
structure Workspace where
  tree : FileTree
  place : List String

namespace Workspace

/-- The path that a text stands for. -/
def path (w : Workspace) (text : String) : FilePath :=
  .ofText w.place text

end Workspace

/-- Why settings could not be loaded: the cause, and the file that was named. -/
structure LoadFault where
  cause : Fault
  file : Option String
deriving Repr, DecidableEq

namespace LoadFault

/-- The words for it.  Where a file was named they tell the file only. -/
def message (fault : LoadFault) : String :=
  match fault.file with
  | some file => s!"failed to load config {file}"
  | none => fault.cause.message

end LoadFault

namespace Settings

/-- The file that settings are read from when no other is named. -/
def defaultFile : String := "tabdb.toml"

/-- The settings in a file. -/
def ofFile (tree : FileTree) (path : FilePath) : Except Fault Settings :=
  match tree.bytesAt path with
  | .error fault => .error (.system fault)
  | .ok bytes =>
    match Text.Utf8.strict? bytes with
    | none => .error (.system .notText)
    | some text => ofDocument text

/-- The settings before anything overrides them. -/
def base (w : Workspace) (file : Option String) : Except LoadFault Settings :=
  match file with
  | some file => (ofFile w.tree (w.path file)).mapError fun cause => ⟨cause, some file⟩
  | none =>
    if w.tree.isFile (w.path defaultFile) then
      (ofFile w.tree (w.path defaultFile)).mapError fun cause => ⟨cause, none⟩
    else
      .ok default

/-- Settings with those that the command line gives. -/
def withInvocation (settings : Settings) (invocation : Invocation) : Settings :=
  let settings := {
    settings with
    storageDirectory := invocation.storageDirectory.getD settings.storageDirectory
    level := invocation.level.getD settings.level }
  match invocation.command with
  | some (.server port host) =>
    { settings with port := port.getD settings.port, host := host.getD settings.host }
  | _ => settings

/-- The settings for a command line. -/
def load (w : Workspace) (env : Environment) (invocation : Invocation) :
    Except LoadFault Settings := do
  let settings ← base w invocation.settingsFile
  let unnamed (cause : Fault) : LoadFault := ⟨cause, none⟩
  let settings := (← (settings.override env).mapError unnamed).withInvocation invocation
  settings.validate.mapError unnamed
  return settings

end Settings

namespace Session

/-- Executes a query, after `USE` of a database if one is given.  If that fails,
its answer is the answer, and the query is not executed. -/
def query {σ : Type} [Store σ] (s : Session σ) (text : String) (database : Option String) :
    Reply × Session σ :=
  match database with
  | none => s.execute text
  | some database =>
    let (reply, selected) := s.execute ("USE " ++ database ++ ";")
    if reply.isAccepted then selected.execute text else (reply, selected)

end Session

namespace Workspace

/-- Executes a query on the tables in the storage directory, which is made if it
is missing: the answer, and the files afterwards. -/
def query (w : Workspace) (settings : Settings) (text : String) (database : Option String) :
    Except Fault Reply × Workspace :=
  match Directory.openAt w.tree (w.path settings.storageDirectory) with
  | (.error fault, tree) => (.error (.system fault), { w with tree := tree })
  | (.ok directory, _) =>
    let (reply, after) := (Session.start directory).query text database
    (.ok reply, { w with tree := after.store.tree })

end Workspace

end TextTables
