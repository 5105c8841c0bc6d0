import LayoutTrail.Layout.Encoding
import LayoutTrail.Search.Trail
import LayoutTrail.Template

/-!
# Files

The files that a command can see, by their paths, and what is read from them.  A path is taken apart
at its slashes and followed part by part: `.` and empty parts stay where they are, `..` goes back,
and every part but the last must lead to a directory.
-/

namespace LayoutTrail

open Text (Symbol)

/-- The parts of a path. -/
abbrev Path := List String

/-- The parts of a path between its slashes. -/
def Path.split (cs : List Char) : List (List Char) :=
  let (part, parts) := cs.foldr (fun c (part, parts) =>
    if c == '/' then ([], part :: parts) else (c :: part, parts)) ([], [])
  part :: parts

/-- The parts that the text of a path has. -/
def Path.partsOf (text : String) : List String := (Path.split text.toList).map String.ofList

/-- The root of all paths that start with a slash. -/
def Path.root : String := "/"

/-- Where a text starts to be followed: at the root, or in the directory of the command. -/
def Path.startOf (text : String) : Path :=
  if text.toList.head? = some '/' then [Path.root] else []

/-- The path one part further. -/
def Path.push (path : Path) (part : String) : Path :=
  if part = "" || part = "." then path
  else if part = ".." then
    match path.getLast? with
    | none => [".."]
    | some last =>
      if last = ".." then path ++ [".."] else if last = Path.root then path else path.dropLast
  else path ++ [part]

/-- Files with their bytes, and directories besides those that hold a file.  The empty path is the
directory in which a command runs. -/
structure FileStore where
  files : List (Path × List UInt8) := []
  directories : List Path := []

/-- What is found at a path. -/
inductive FileEntry
  | file (bytes : List UInt8)
  | directory

namespace FileStore

/-- Whether a path is a directory.  The root is one, and so is what holds the directory in which a
command runs. -/
def isDirectory (store : FileStore) (path : Path) : Bool :=
  path.all (fun part => part = Path.root || part = "..") || store.directories.contains path ||
    store.files.any fun f => path.isPrefixOf f.1 && path.length < f.1.length

/-- The bytes of the file at a path. -/
def bytes? (store : FileStore) (path : Path) : Option (List UInt8) :=
  (store.files.find? (·.1 = path)).map (·.2)

/-- Why a path is no directory. -/
def noDirectory (store : FileStore) (path : Path) : FileFault :=
  if (store.bytes? path).isSome then .notDirectory else .missing

/-- Follows parts from a path. -/
def walk (store : FileStore) (path : Path) : List String → Except FileFault Path
  | [] => .ok path
  | part :: rest =>
    if store.isDirectory path then store.walk (path.push part) rest
    else .error (store.noDirectory path)

/-- The path that a text leads to, whose last part need not be there. -/
def locate (store : FileStore) (text : String) : Except FileFault Path :=
  if text.isEmpty then .error .missing
  else store.walk (Path.startOf text) (Path.partsOf text)

/-- What a text names. -/
def find (store : FileStore) (text : String) : Except FileFault FileEntry := do
  let path ← store.locate text
  if store.isDirectory path then .ok .directory
  else match store.bytes? path with
    | some bytes => .ok (.file bytes)
    | none => .error .missing

/-- Whether a text names a file. -/
def isFile (store : FileStore) (text : String) : Bool :=
  match store.find text with
  | .ok (.file _) => true
  | _ => false

/-- The text of a file. -/
def readText (store : FileStore) (path : String) : Except FileFault String := do
  match ← store.find path with
  | .directory => .error .isDirectory
  | .file bytes =>
    match Symbol.text? (Symbol.ofBytes bytes) with
    | some text => .ok text
    | none => .error .notText

/-- The store after a text has been written to a file.  Whatever ends in a slash is taken for a
directory. -/
def write (store : FileStore) (text : String) (content : String) :
    Except FileFault FileStore := do
  let slashed := text.toList.getLast? = some '/'
  let path ← if slashed
    then store.walk (Path.startOf text) ((Path.partsOf text).reverse.dropWhile (· = "")).reverse
    else store.locate text
  if slashed || store.isDirectory path then .error .isDirectory
  else .ok { store with
    files := (path, content.toUTF8.toList) :: store.files.filter (·.1 ≠ path) }

end FileStore

/-- Reads a document from a file.  A directory can be opened but not read. -/
def Document.ofFile (store : FileStore) (path : String) : Except Error Document :=
  match store.find path with
  | .error fault => .error (.file fault)
  | .ok .directory => .error (.json (.text .unreadable))
  | .ok (.file bytes) => (Document.ofBytes bytes).mapError .json

/-- Reads a template from a file. -/
def Template.ofFile (store : FileStore) (path : String) : Except Error Template :=
  match store.readText path with
  | .error fault => .error (.file fault)
  | .ok text => (Template.ofText text).mapError .json

/-- Checks steps, reads a document from a file and takes the steps from its start. -/
def FileStore.resolve (store : FileStore) (path : String) (specs : List StepSpec) :
    Except Error Target := do
  let trail ← Trail.ofSpecs {} specs
  let d ← Document.ofFile store path
  .ok (trail.resolve d)

end LayoutTrail
