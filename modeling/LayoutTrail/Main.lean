import LayoutTrail.Command.Run

/-!
# The program

Looks at the files that the command line names, runs the command on them, and does what the outcome
says.
-/

namespace LayoutTrail

/-- The text of a path. -/
def Path.toText (path : Path) : String :=
  match path with
  | [] => "."
  | part :: rest =>
    if part = Path.root then part ++ "/".intercalate rest else "/".intercalate path

/-- The paths on the way to what a text names, itself included. -/
def Path.along (text : String) : List Path :=
  ((Path.partsOf text).foldl (fun paths part => Path.push (paths.headD []) part :: paths)
    [Path.startOf text]).reverse

/-- Adds what is found at a path. -/
def FileStore.look (store : FileStore) (path : Path) : IO FileStore := do
  try
    let bytes ← IO.FS.readBinFile path.toText
    return { store with files := (path, bytes.toList) :: store.files }
  catch e =>
    match e with
    | .inappropriateType _ 21 _ => return { store with directories := path :: store.directories }
    | _ => return store

/-- The files that a command line names. -/
def FileStore.forArgs (args : List String) : IO FileStore := do
  let texts := (Command.parse? args).elim [] Command.paths
  (texts.flatMap Path.along).eraseDups.foldlM FileStore.look {}

end LayoutTrail

open LayoutTrail in
/-- Runs the program. -/
def main (args : List String) : IO UInt32 := do
  let outcome := Command.runArgs (← FileStore.forArgs args) args
  if let some (path, content) := outcome.written then IO.FS.writeFile path content
  IO.print outcome.stdout
  IO.eprint outcome.stderr
  return .ofNat outcome.exit
