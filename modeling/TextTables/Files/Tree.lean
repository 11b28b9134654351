import TextTables.Dict
import TextTables.Fault

/-!
# Trees of files

A tree of files is a file or a directory of named trees.  A place in a tree is
reached from the top by the names on the way.  Paths are walked as a file system
walks them: every step needs a directory to start from, `.` stays, `..` goes
up, and names and paths that are too long are refused.
-/

namespace TextTables

/-- A file with its bytes, or a directory with its entries in the order of their
names. -/
inductive FileTree where
  | file (content : ByteArray)
  | directory (entries : List (String × FileTree))

namespace FileTree

/-- A directory without entries. -/
def empty : FileTree :=
  directory []

instance : Inhabited FileTree := ⟨empty⟩

/-- The tree at a place. -/
def find? : FileTree → List String → Option FileTree
  | tree, [] => some tree
  | file _, _ :: _ => none
  | directory entries, name :: rest =>
    match Assoc.get? entries name with
    | none => none
    | some inner => inner.find? rest

/-- Replaces what is at a place: `f` is given the tree there, if there is one,
and `none` from it takes the tree away.  Only a directory that is there gains or
loses an entry, and the top stays in any case. -/
def alter (f : Option FileTree → Option FileTree) : List String → FileTree → FileTree
  | [], tree => (f (some tree)).getD tree
  | _ :: _, file content => file content
  | [name], directory entries =>
    match f (Assoc.get? entries name) with
    | some tree => directory (Assoc.insert name tree entries)
    | none => directory (Assoc.erase name entries)
  | name :: rest, directory entries =>
    match Assoc.get? entries name with
    | some tree => directory (Assoc.insert name (alter f rest tree) entries)
    | none => directory entries

/-- Puts a tree at a place. -/
def put (tree : FileTree) (place : List String) (inner : FileTree) : FileTree :=
  alter (fun _ => some inner) place tree

/-- Takes away what is at a place. -/
def erase (tree : FileTree) (place : List String) : FileTree :=
  alter (fun _ => none) place tree

end FileTree

/-- A path: the place where the walk begins, and the steps from there.  The steps
with slashes between them are its text, so an empty step stands for a slash at
the beginning or the end, or next to another one. -/
structure FilePath where
  base : List String
  steps : List String
deriving Repr, DecidableEq

namespace FilePath

/-- The steps that a text with slashes stands for. -/
def stepsOf (text : String) : List String :=
  (text.toList.splitOn '/').map String.ofList

/-- Whether a text begins with a slash and is a path from the top. -/
def isAbsolute (text : String) : Bool :=
  text.toList.head? == some '/'

/-- The path that leads on from another one.  A slash is put between them unless
there is one.  A text that begins with a slash leads away from the top instead. -/
def join (path : FilePath) (text : String) : FilePath :=
  if isAbsolute text then ⟨[], stepsOf text⟩
  else
    let before := if path.steps.getLast? == some "" then path.steps.dropLast else path.steps
    { path with steps := before ++ stepsOf text }

/-- The path of a text, from a place. -/
def ofText (base : List String) (text : String) : FilePath :=
  join ⟨base, []⟩ text

/-- The steps without empty ones at the end. -/
def trimmed (path : FilePath) : List String :=
  (path.steps.reverse.dropWhile (· == "")).reverse

/-- The steps that lead on or up.  An empty step and a point stay where they are. -/
def leading (path : FilePath) : List String :=
  path.steps.filter fun step => step != "" && step != "."

/-- Whether the last step is a name, so that it says which entry of a directory
is meant. -/
def endsInName (path : FilePath) : Bool :=
  match path.trimmed.getLast? with
  | some step => step != "." && step != ".."
  | none => false

/-- The length of the text, in bytes. -/
def length (path : FilePath) : Nat :=
  path.steps.foldr (fun step total => step.utf8ByteSize + total) (path.steps.length - 1)

/-- The longest name, in bytes. -/
def longestName : Nat := 255

/-- The longest text of a path, in bytes. -/
def longestText : Nat := 4095

/-- Whether the text is short enough. -/
def fits (path : FilePath) : Bool :=
  path.length ≤ longestText

/-- Refuses a text that is no path, wherever it might lead. -/
def check (path : FilePath) : Except PlaceFault Unit :=
  if path.steps.any fun step => step.toList.contains '\x00' then .error .nulInName
  else if !path.fits then .error .nameTooLong
  else .ok ()

end FilePath

/-- Where a walk stands: what is there, if anything, and the directories that it
has come through, nearest first, each with the name that it went on with. -/
structure Spot where
  above : List (String × FileTree)
  found : Option FileTree

namespace Spot

/-- The place of a spot. -/
def place (spot : Spot) : List String :=
  (spot.above.map Prod.fst).reverse

/-- The directory that a spot is in.  Nothing is above the top. -/
def up (spot : Spot) : Spot :=
  match spot.above with
  | [] => spot
  | (_, outer) :: above => ⟨above, some outer⟩

/-- Walks steps.  What the last step names need not be there. -/
def walk (spot : Spot) : List String → Except PlaceFault Spot
  | [] => .ok spot
  | step :: rest =>
    match spot.found with
    | none => .error .missing
    | some (.file _) => .error .notDirectory
    | some (.directory entries) =>
      if step == "" || step == "." then walk spot rest
      else if step == ".." then walk spot.up rest
      else if FilePath.longestName < step.utf8ByteSize then .error .nameTooLong
      else walk ⟨(step, .directory entries) :: spot.above, Assoc.get? entries step⟩ rest

end Spot

namespace FileTree

/-- Walks steps from the top of a tree. -/
def walk (tree : FileTree) (steps : List String) : Except PlaceFault (List String) :=
  (Spot.walk ⟨[], some tree⟩ steps).map Spot.place

/-- The place that a path leads to. -/
def resolve (tree : FileTree) (path : FilePath) : Except PlaceFault (List String) := do
  path.check
  tree.walk (path.base ++ path.steps)

/-- What a path leads to. -/
def lookup (tree : FileTree) (path : FilePath) : Except PlaceFault FileTree := do
  match tree.find? (← tree.resolve path) with
  | some found => return found
  | none => throw .missing

/-- Whether a path leads to anything. -/
def isThere (tree : FileTree) (path : FilePath) : Bool :=
  (tree.lookup path).isOk

/-- Whether a path leads to a directory. -/
def isDirectory (tree : FileTree) (path : FilePath) : Bool :=
  match tree.lookup path with
  | .ok (directory _) => true
  | _ => false

/-- Whether a path leads to a file. -/
def isFile (tree : FileTree) (path : FilePath) : Bool :=
  match tree.lookup path with
  | .ok (file _) => true
  | _ => false

/-- The bytes of a file. -/
def bytesAt (tree : FileTree) (path : FilePath) : Except PlaceFault ByteArray := do
  match ← tree.lookup path with
  | file content => return content
  | directory _ => throw .isDirectory

/-- Makes a file of bytes, in place of any file there. -/
def putFile (tree : FileTree) (path : FilePath) (content : ByteArray) :
    Except PlaceFault FileTree := do
  let place ← tree.resolve path
  match tree.find? place with
  | some (directory _) => throw .isDirectory
  | _ => return tree.put place (file content)

/-- Takes a file away. -/
def eraseFile (tree : FileTree) (path : FilePath) : Except PlaceFault FileTree := do
  let place ← tree.resolve path
  match tree.find? place with
  | some (file _) => return tree.erase place
  | some (directory _) => throw .isDirectory
  | none => throw .missing

/-- Takes an empty directory away.  Its path has to end in its name. -/
def eraseDirectory? (tree : FileTree) (path : FilePath) : Option FileTree :=
  match tree.resolve path with
  | .error _ => none
  | .ok place =>
    match tree.find? place with
    | some (directory []) => if path.endsInName then some (tree.erase place) else none
    | _ => none

/-- Takes away what a path leads to, with all that is in it, and says whether
all went well.  A directory whose path does not end in its name is emptied, but
stays. -/
def eraseAll (tree : FileTree) (path : FilePath) : Bool × FileTree :=
  match tree.resolve path with
  | .error _ => (false, tree)
  | .ok place =>
    match tree.find? place with
    | none => (false, tree)
    | some (file _) => (true, tree.erase place)
    | some (directory _) =>
      let emptied := tree.put place empty
      match emptied.eraseDirectory? path with
      | some tree => (true, tree)
      | none => (false, emptied)

/-- Makes a directory in one that is there.  Slashes may follow its name. -/
def makeDirectory (tree : FileTree) (path : FilePath) : Except PlaceFault FileTree := do
  path.check
  let place ← tree.walk (path.base ++ path.trimmed)
  match tree.find? place with
  | some _ => throw .occupied
  | none => return tree.put place empty

/-- Makes the directory of a path, unless it is there.  Where the way to it is
missing, `makeWay` makes it first. -/
def makeDirectoryAfter (makeWay : FileTree → Except PlaceFault Unit × FileTree)
    (tree : FileTree) (path : FilePath) : Except PlaceFault Unit × FileTree :=
  let settle (tree : FileTree) (fault : PlaceFault) : Except PlaceFault Unit × FileTree :=
    (if tree.isDirectory path then .ok () else .error fault, tree)
  match tree.makeDirectory path with
  | .ok made => (.ok (), made)
  | .error .missing =>
    match makeWay tree with
    | (.error fault, tree) => (.error fault, tree)
    | (.ok (), tree) =>
      match tree.makeDirectory path with
      | .ok made => (.ok (), made)
      | .error fault => settle tree fault
  | .error fault => settle tree fault

/-- Makes the directories that steps, given last first, lead through from a
place, as far as they are missing.  Those made before a failure stay. -/
def makeWay (base : List String) : List String → FileTree → Except PlaceFault Unit × FileTree
  | [], tree => (.ok (), tree)
  | step :: before, tree =>
    makeDirectoryAfter (makeWay base before) tree ⟨base, (step :: before).reverse⟩

/-- Makes a directory and those on the way to it, as far as they are missing. -/
def makeDirectories (tree : FileTree) (path : FilePath) : Except PlaceFault Unit × FileTree :=
  makeDirectoryAfter (makeWay path.base path.leading.reverse.tail) tree path

end FileTree

end TextTables
