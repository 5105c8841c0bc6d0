/-!
# Command line

The commands and the arguments that name them.  Options may stand anywhere after the name of the
command; one that takes a value takes the rest of its argument or the next argument, which must not
look like an option.  No option may be given twice, and `--` ends the options.
-/

namespace LayoutTrail

/-- A command. -/
inductive Command
  | resolve (input parsers : String) (anchor : Option String)
      (ignoreCase valueOnly compact : Bool)
  | extract (inputs : List String) (template : String) (output : Option String)
      (ignoreCase text compact : Bool)
  | words (input : String) (pages : Option String)
  | info (input : String)
  | version
  /-- The version alone, on one line. -/
  | versionLine
  | help
  deriving DecidableEq, Repr

namespace Command

/-- An option of a command: its long name, its letter if it has one, and whether it takes a
value. -/
structure OptionSpec where
  name : String
  letter : Option Char
  takesValue : Bool

/-- The arguments of a command: values of options, switches and the rest, latest first. -/
structure Parsed where
  values : List (String × String) := []
  switches : List String := []
  positionals : List String := []

/-- What the arguments of a command amount to. -/
inductive Scan
  | misuse
  | help
  | parsed (p : Parsed)

namespace Parsed

/-- Whether an option has been given. -/
def has (p : Parsed) (name : String) : Bool :=
  p.switches.contains name || p.values.any (·.1 = name)

/-- The value of an option. -/
def value? (p : Parsed) (name : String) : Option String :=
  (p.values.find? (·.1 = name)).map (·.2)

/-- Adds a switch, unless it has been given. -/
def addSwitch (p : Parsed) (name : String) : Option Parsed :=
  if p.has name then none else some { p with switches := name :: p.switches }

/-- Adds a value, unless the option has been given. -/
def addValue (p : Parsed) (name value : String) : Option Parsed :=
  if p.has name then none else some { p with values := (name, value) :: p.values }

/-- Adds an argument that is no option. -/
def addPositional (p : Parsed) (arg : String) : Parsed :=
  { p with positionals := arg :: p.positionals }

end Parsed

/-- Whether an argument looks like an option or ends the options. -/
def looksLikeOption (arg : String) : Bool :=
  match arg.toList with
  | '-' :: _ :: _ => true
  | _ => false

/-- What one argument with options amounts to. -/
inductive Reading
  | misuse
  | help
  | parsed (p : Parsed)
  /-- An option takes the next argument as its value. -/
  | wantsValue (name : String) (p : Parsed)

/-- What has been read, unless an option was given twice. -/
def Reading.ofParsed? : Option Parsed → Reading
  | some p => parsed p
  | none => misuse

/-- Reads letters of options; the first that takes a value takes the rest of the argument, without
an equals sign before it. -/
def readLetters (specs : List OptionSpec) (p : Parsed) : List Char → Reading
  | [] => .parsed p
  | c :: rest =>
    match specs.find? (·.letter = some c) with
    | none => if c = 'h' then .help else .misuse
    | some spec =>
      if spec.takesValue then
        match rest with
        | [] => .wantsValue spec.name p
        | '=' :: value => .ofParsed? (p.addValue spec.name (String.ofList value))
        | value => .ofParsed? (p.addValue spec.name (String.ofList value))
      else
        match p.addSwitch spec.name with
        | some p => readLetters specs p rest
        | none => .misuse

/-- Reads an option by its long name, with a value after an equals sign if there is one. -/
def readLong (specs : List OptionSpec) (p : Parsed) (long : List Char) : Reading :=
  let name := long.takeWhile (· != '=')
  let value := (long.drop name.length).tail?.map String.ofList
  match specs.find? (·.name = String.ofList name), value with
  | none, none => if name = ['h', 'e', 'l', 'p'] then .help else .misuse
  | none, some _ => .misuse
  | some spec, some value =>
    if spec.takesValue then .ofParsed? (p.addValue spec.name value) else .misuse
  | some spec, none =>
    if spec.takesValue then .wantsValue spec.name p else .ofParsed? (p.addSwitch spec.name)

/-- Reads an argument that may be an option. -/
def readArg (specs : List OptionSpec) (p : Parsed) (arg : String) : Reading :=
  match arg.toList with
  | '-' :: '-' :: long => readLong specs p long
  | '-' :: c :: letters => readLetters specs p (c :: letters)
  | _ => .parsed (p.addPositional arg)

/-- Reads the arguments of a command with the given options; `waiting` is the option that takes the
next argument as its value. -/
def scan (specs : List OptionSpec) (p : Parsed) (waiting : Option String) : List String → Scan
  | [] => if waiting.isSome then .misuse else .parsed p
  | arg :: rest =>
    match waiting with
    | some name =>
      if looksLikeOption arg then .misuse
      else
        match p.addValue name arg with
        | some p => scan specs p none rest
        | none => .misuse
    | none =>
      if arg = "--" then .parsed (rest.foldl Parsed.addPositional p)
      else
        match readArg specs p arg with
        | .misuse => .misuse
        | .help => .help
        | .parsed p => scan specs p none rest
        | .wantsValue name p => scan specs p (some name) rest

/-- A path must not be empty. -/
def pathOk (path : String) : Bool := !path.isEmpty

/-- The options of `resolve`. -/
def resolveSpecs : List OptionSpec :=
  [⟨"parsers", some 'p', true⟩, ⟨"anchor", none, true⟩, ⟨"ignore-case", some 'i', false⟩,
    ⟨"value-only", none, false⟩, ⟨"compact", none, false⟩]

/-- The options of `extract`. -/
def extractSpecs : List OptionSpec :=
  [⟨"template", some 't', true⟩, ⟨"output", some 'o', true⟩, ⟨"ignore-case", some 'i', false⟩,
    ⟨"text", none, false⟩, ⟨"compact", none, false⟩]

/-- The options of `words`. -/
def wordsSpecs : List OptionSpec := [⟨"pages", none, true⟩]

/-- The command of parsed arguments; `none` for arguments that are missing or too many. -/
def ofParsed? (name : String) (p : Parsed) : Option Command :=
  let inputs := p.positionals.reverse
  match name, inputs with
  | "resolve", [input] => do
    let parsers ← p.value? "parsers"
    if !pathOk input then none
    some (.resolve input parsers (p.value? "anchor") (p.has "ignore-case") (p.has "value-only")
      (p.has "compact"))
  | "extract", _ :: _ => do
    let template ← p.value? "template"
    let output := p.value? "output"
    if !(inputs.all pathOk && pathOk template && output.all pathOk) then none
    some (.extract inputs template output (p.has "ignore-case") (p.has "text") (p.has "compact"))
  | "words", [input] => if pathOk input then some (.words input (p.value? "pages")) else none
  | "info", [input] => if pathOk input then some (.info input) else none
  | "version", [] => some .version
  | _, _ => none

/-- The arguments that may name files. -/
def paths : Command → List String
  | resolve input parsers anchor _ _ _ => input :: parsers :: anchor.toList
  | extract inputs template output _ _ _ => inputs ++ template :: output.toList
  | words input _ => [input]
  | info input => [input]
  | version | versionLine | help => []

/-- The options of a command. -/
def specsOf? : String → Option (List OptionSpec)
  | "resolve" => some resolveSpecs
  | "extract" => some extractSpecs
  | "words" => some wordsSpecs
  | "info" => some []
  | "version" => some []
  | _ => none

/-- The names of commands. -/
def names : List String := ["resolve", "extract", "words", "info", "version", "help"]

/-- Reads a command line; `none` if it is misused. -/
def parse? : List String → Option Command
  | [] => none
  | arg :: rest =>
    match specsOf? arg with
    | some specs =>
      match scan specs {} none rest with
      | .misuse => none
      | .help => some .help
      | .parsed p => ofParsed? arg p
    | none =>
      if arg = "help" then
        match rest with
        | [] => some .help
        | [name] => if names.contains name then some .help else none
        | _ => none
      else if arg = "--version" then some .versionLine
      else if arg = "--help" then some .help
      else
        match arg.toList with
        | '-' :: 'V' :: _ => some .versionLine
        | '-' :: 'h' :: _ => some .help
        | _ => none

end Command

end LayoutTrail
