import TextTables.Files.Tree
import TextTables.Row
import TextTables.Store
import TextTables.Text.Lines
import TextTables.Text.Utf8

/-!
# Tables kept in files

A database is a directory inside the root directory, and a table is a file in
it, one line for each line of the table.  A name that leads to something else
than is looked for counts as taken, but not as there.
-/

namespace TextTables

/-- A tree of files, and the directory in it that holds the databases. -/
structure Directory where
  tree : FileTree
  root : FilePath

namespace Directory

/-- A tree as the root directory.  It stands below the top of the whole tree, so
that it can be taken away and made again. -/
def ofTree (tree : FileTree) : Directory :=
  ⟨.directory [("root", tree)], .ofText [] "/root"⟩

/-- A root directory without databases. -/
def empty : Directory :=
  ofTree .empty

/-- The path of a database. -/
def databasePath (d : Directory) (database : String) : FilePath :=
  d.root.join (storedName database)

/-- The path of a table. -/
def tablePath (d : Directory) (database table : String) : FilePath :=
  (d.databasePath database).join (storedName table)

/-- The bytes of a file of lines. -/
def content (lines : List String) : ByteArray :=
  (Text.ofLines lines).toUTF8

/-- Opens the directory for databases and makes it where it is missing. -/
def openAt (tree : FileTree) (root : FilePath) : Except PlaceFault Directory × FileTree :=
  match tree.makeDirectories root with
  | (.ok (), tree) => (.ok ⟨tree, root⟩, tree)
  | (.error fault, tree) => (.error fault, tree)

/-- The lines of a table.  What is no file of text has none. -/
def read (d : Directory) (database table : String) : List String :=
  match d.tree.bytesAt (d.tablePath database table) with
  | .error _ => []
  | .ok bytes =>
    match Text.Utf8.strict? bytes with
    | some text => Text.lines text
    | none => []

/-- Replaces the lines of a table. -/
def write (d : Directory) (database table : String) (lines : List String) :
    Outcome Directory :=
  let path := d.tablePath database table
  if d.tree.isFile path then
    match d.tree.putFile path (content lines) with
    | .ok tree => (.ok (), { d with tree := tree })
    | .error _ => (.error .tableNotWritten, d)
  else
    (.error (.tableMissing table), d)

/-- Whether there is such a database. -/
def databaseExists (d : Directory) (database : String) : Bool :=
  d.tree.isDirectory (d.databasePath database)

/-- Adds a table of one line, the header. -/
def createTable (d : Directory) (database table : String) (header : List String) :
    Outcome Directory :=
  let path := d.tablePath database table
  if !d.databaseExists database then (.error (.databaseMissing database), d)
  else if d.tree.isThere path then (.error (.tableExists table), d)
  else
    match d.tree.putFile path (content [Row.toLine header]) with
    | .ok tree => (.ok (), { d with tree := tree })
    | .error _ => (.error (.tableNotCreated table), d)

/-- Takes a table out. -/
def dropTable (d : Directory) (database table : String) : Outcome Directory :=
  let path := d.tablePath database table
  if d.tree.isFile path then
    match d.tree.eraseFile path with
    | .ok tree => (.ok (), { d with tree := tree })
    | .error _ => (.error (.tableNotDeleted table), d)
  else
    (.error (.tableMissing table), d)

/-- Adds a database without tables. -/
def createDatabase (d : Directory) (database : String) : Outcome Directory :=
  let path := d.databasePath database
  if d.tree.isThere path then (.error (.databaseExists database), d)
  else
    match d.tree.makeDirectories path with
    | (.ok (), tree) => (.ok (), { d with tree := tree })
    | (.error _, tree) => (.error .databaseNotCreated, { d with tree := tree })

/-- Whether a tree is a file. -/
def isFileTree : FileTree → Bool
  | .file _ => true
  | .directory _ => false

/-- The entries of the directory of a database, and its place. -/
def entries? (d : Directory) (database : String) :
    Option (List String × List (String × FileTree)) :=
  match d.tree.resolve (d.databasePath database) with
  | .error _ => none
  | .ok place =>
    match d.tree.find? place with
    | some (.directory entries) => some (place, entries)
    | _ => none

/-- Takes a database out: the files in its directory, then the directory, which
stays if anything is left in it.  A file is left if its path would be too long. -/
def dropDatabase (d : Directory) (database : String) : Outcome Directory :=
  match d.entries? database with
  | none => (.error (.databaseMissing database), d)
  | some (place, entries) =>
    let path := d.databasePath database
    let isLeft (entry : String × FileTree) : Bool :=
      !isFileTree entry.2 || !(path.join entry.1).fits
    let emptied := d.tree.put place (.directory (entries.filter isLeft))
    match emptied.eraseDirectory? path with
    | some tree => (.ok (), { d with tree := tree })
    | none => (.error (.databaseNotEmptied database), { d with tree := emptied })

/-- The names of the files in the directory of a database, in order. -/
def tables (d : Directory) (database : String) : Except Fault (List String) :=
  match d.entries? database with
  | none => .error (.databaseMissing database)
  | some (_, entries) =>
    .ok ((entries.filter fun entry => isFileTree entry.2).map Prod.fst)

instance : Store Directory where
  read := read
  write := write
  createTable := createTable
  dropTable := dropTable
  createDatabase := createDatabase
  databaseExists := databaseExists
  dropDatabase := dropDatabase
  tables := tables

end Directory

end TextTables
