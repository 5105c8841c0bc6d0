import LayoutTrail.Command.Args
import LayoutTrail.Command.Files
import LayoutTrail.Report.Listing

/-!
# Running a command

A command reads files and gives an outcome: an exit code, what it prints, and the file it writes, if
any.  Nothing is printed or written before all files have been read, so a command that fails leaves
everything as it was.
-/

namespace LayoutTrail

open Json (Layout Value)

/-- What a command does. -/
structure Outcome where
  exit : Nat := 0
  stdout : String := ""
  stderr : String := ""
  /-- The path and content of the file that was written. -/
  written : Option (String × String) := none

/-- The files after a command that found those of `store`. -/
def Outcome.storeAfter (o : Outcome) (store : FileStore) : FileStore :=
  match o.written with
  | none => store
  | some (path, content) =>
    match store.write path content with
    | .ok store => store
    | .error _ => store

namespace Command

/-- The name and version of the program. -/
def programLine : String := "docanchor 0.1.0"

/-- The outcome of a command that fails. -/
def failure (message : String) : Outcome :=
  { exit := 1, stderr := "Error: " ++ message ++ "\n" }

/-- The outcome of a command that only prints. -/
def printing (text : String) : Outcome := { stdout := text ++ "\n" }

/-- The outcome of a command line that is misused. -/
def misused : Outcome := { exit := 2 }

/-- Turns an error into its message. -/
def describing {α : Type} (r : Except Error α) : Except String α := r.mapError Error.message

/-- The layout that a switch asks for. -/
def layoutOf (compact : Bool) : Layout := if compact then .compact else .pretty

/-- The text of an argument that is a file or JSON itself. -/
def readArgument (store : FileStore) (arg : String) : Except String String :=
  if store.isFile arg then (store.readText arg).mapError FileFault.message
  else
    match Text.trimStart arg.toList with
    | '[' :: _ => .ok arg
    | '\x7b' :: _ => .ok arg
    | _ => .error ("File not found: " ++ arg)

/-- What `resolve` prints. -/
def resolveText (store : FileStore) (input parsers : String) (anchor : Option String)
    (ignoreCase valueOnly compact : Bool) : Except String String := do
  let text ← readArgument store parsers
  let specs ← describing ((StepSpec.listOfText text).mapError .json)
  let trail ← describing (Trail.ofSpecs { ignoreCase := ignoreCase } specs)
  let d ← describing (Document.ofFile store input)
  let anchor ← match anchor with
    | none => .ok Anchor.seed
    | some arg => do
      let text ← readArgument store arg
      describing ((Anchor.ofText text).mapError .json)
  let target := trail.resolveFrom d anchor
  .ok (if valueOnly then target.value else target.toJson.toText (layoutOf compact))

/-- Reads documents in order. -/
def readAll (store : FileStore) : List String → Except Error (List (String × Document))
  | [] => .ok []
  | path :: rest => do
    let d ← Document.ofFile store path
    let rest ← readAll store rest
    .ok ((path, d) :: rest)

/-- Extractions as lines of text, under the names of their files if there are several. -/
def extractionsText (results : List (String × Extraction)) : String :=
  match results with
  | [(_, e)] => e.toText
  | results => "\n\n".intercalate (results.map fun r => "# " ++ r.1 ++ "\n" ++ r.2.toText)

/-- Extractions as JSON: one by itself, several as a list with the names of their files, in which
all members are in the order of their names. -/
def extractionsJson (results : List (String × Extraction)) : Value :=
  match results with
  | [(_, e)] => e.toJson
  | results => .array (results.map fun r =>
      (Value.object [("document", .string r.1), ("fields", r.2.toJson)]).ordered)

/-- What `extract` puts out. -/
def extractText (store : FileStore) (inputs : List String) (template : String)
    (ignoreCase text compact : Bool) : Except Error String := do
  let t ← Template.ofFile store template
  let extractor ← t.compile { ignoreCase := ignoreCase }
  let documents ← readAll store inputs
  let results := documents.map fun r => (r.1, extractor.extract r.2)
  .ok (if text then extractionsText results
    else (extractionsJson results).toText (layoutOf compact))

/-- The outcome of `extract`. -/
def runExtract (store : FileStore) (inputs : List String) (template : String)
    (output : Option String) (ignoreCase text compact : Bool) : Outcome :=
  match extractText store inputs template ignoreCase text compact with
  | .error e => failure e.message
  | .ok rendered =>
    match output with
    | none => printing rendered
    | some path =>
      match store.write path rendered with
      | .error fault => failure fault.message
      | .ok _ => { stdout := "Saved to " ++ path ++ "\n", written := some (path, rendered) }

/-- What `words` prints. -/
def wordsText (store : FileStore) (input : String) (pages : Option String) :
    Except Error String := do
  let selection ← match pages with
    | none => .ok .all
    | some text => PageSelection.parse text
  let d ← Document.ofFile store input
  .ok (d.listing selection)

/-- What `info` prints about a document. -/
def infoText (input : String) (d : Document) : String :=
  "\n".intercalate
    ["Document Information",
      String.ofList (List.replicate 40 '─'),
      "File: " ++ input,
      "Pages: " ++ toString d.pageCount,
      "Lines: " ++ toString d.lineCount,
      "Phrases: " ++ toString d.phraseCount,
      "Words: " ++ toString d.wordCount,
      "Blank: " ++ (if d.isBlank then "Yes" else "No")]

/-- What `version` prints. -/
def versionText : String :=
  programLine ++ "\nLayout annotation text locator\n\nLicense: MIT"

/-- The outcome of printing a text or failing. -/
def printOrFail : Except String String → Outcome
  | .ok text => printing text
  | .error message => failure message

/-- The outcome of a command. -/
def run (store : FileStore) : Command → Outcome
  | resolve input parsers anchor ignoreCase valueOnly compact =>
    printOrFail (resolveText store input parsers anchor ignoreCase valueOnly compact)
  | extract inputs template output ignoreCase text compact =>
    runExtract store inputs template output ignoreCase text compact
  | words input pages => printOrFail (describing (wordsText store input pages))
  | info input => printOrFail (describing ((Document.ofFile store input).map (infoText input)))
  | version => printing versionText
  | versionLine => printing programLine
  | help => {}

/-- The outcome of a command line. -/
def runArgs (store : FileStore) (args : List String) : Outcome :=
  match parse? args with
  | some command => command.run store
  | none => misused

end Command

end LayoutTrail
