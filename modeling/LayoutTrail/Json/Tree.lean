import LayoutTrail.Json.Token

/-!
# JSON texts as a reader meets them

The tree of a text keeps members in their order and with repeated names, and it keeps what was read
before the text breaks: `fault` stands where a value should be, and `cut` where a comma, a name or
a closing bracket should be.  A reader that walks the tree from the left meets values and faults in
the order of the text, and may therefore object to a value before it learns of a later fault.
-/

namespace LayoutTrail.Json

/-- The name of a member, or its fault. -/
abbrev Name := Except Fault String

/-- A JSON text up to its first break. -/
inductive Tree
  | null
  | bool (b : Bool)
  | number (n : Except Fault Number)
  | string (s : Except Fault String)
  | array (items : List Tree) (cut : Option Break)
  | object (members : List (Name × Tree)) (cut : Option Break)
  | fault (b : Break)

namespace Tree

/-- The tree of a text, and whether more than gaps follows the value. -/
structure Reading where
  tree : Tree
  trailing : Bool

/-- A container that is still open: its parts so far, latest first.  In an object a name may wait
for its value. -/
inductive Open
  | array (items : List Tree)
  | object (members : List (Name × Tree)) (name : Option Name)

/-- What must come next. -/
inductive Expected
  | value
  /-- A value or the end of an array. -/
  | firstValue
  /-- A name or the end of an object. -/
  | firstName
  | name
  | colon
  /-- A comma or the end of the container. -/
  | separator

/-- Closes a container. -/
def Open.close (cut : Option Break) : Open → Tree
  | .array items => .array items.reverse cut
  | .object members _ => .object members.reverse cut

/-- Adds a value to a container. -/
def Open.add (v : Tree) : Open → Open
  | .array items => .array (v :: items)
  | .object members (some name) => .object ((name, v) :: members) none
  | .object members none => .object members none

/-- Closes all containers around a value after a break. -/
def abandon (b : Break) (v : Tree) : List Open → Tree
  | [] => v
  | o :: opened => abandon b ((o.add v).close (some b)) opened

/-- The tree of a text that breaks where something is expected. -/
def breakAt (b : Break) (expected : Expected) (opened : List Open) : Tree :=
  match expected with
  | .value | .firstValue | .colon => abandon b (.fault b) opened
  | .firstName | .name | .separator =>
    match opened with
    | [] => .fault b
    | o :: opened => abandon b (o.close (some b)) opened

/-- The value that a token is by itself. -/
def ofToken? : Token → Option Tree
  | .null => some null
  | .bool b => some (bool b)
  | .number n => some (number n)
  | .string s => some (string s)
  | _ => none

/-- How a token breaks the text where a value is expected. -/
def brokenValue : Token → Break
  | .broken b => b
  | .brokenString b => b
  | _ => .both .malformed

/-- How a token breaks the text where a name is expected. -/
def brokenName : Token → Break
  | .brokenString b => b
  | _ => .both .malformed

/-- What has been read of a text. -/
inductive State
  /-- The containers that are open, innermost first, and what must come next. -/
  | within (opened : List Open) (expected : Expected)
  /-- A complete value, and whether anything followed it. -/
  | complete (v : Tree) (trailing : Bool)
  /-- A text that broke. -/
  | broken (v : Tree)

namespace State

/-- The state after a complete value. -/
def after (v : Tree) : List Open → State
  | [] => complete v false
  | o :: opened => within (o.add v :: opened) .separator

/-- The state after a token that may not stand here. -/
def breakWith (b : Break) (expected : Expected) (opened : List Open) : State :=
  broken (breakAt b expected opened)

/-- A token where a value is expected. -/
def readValue (expected : Expected) (opened : List Open) (t : Token) : State :=
  match t with
  | .openArray => within (.array [] :: opened) .firstValue
  | .openObject => within (.object [] none :: opened) .firstName
  | t =>
    match ofToken? t with
    | some v => after v opened
    | none => breakWith (brokenValue t) expected opened

/-- A token where the name of a member of the innermost container is expected. -/
def readName (expected : Expected) (opened : List Open) (t : Token) : State :=
  match t, opened with
  | .string name, .object members _ :: opened => within (.object members (some name) :: opened) .colon
  | t, _ => breakWith (brokenName t) expected opened

/-- A token after a value inside a container. -/
def readSeparator (opened : List Open) (t : Token) : State :=
  match t, opened with
  | .comma, .array _ :: _ => within opened .value
  | .comma, .object _ _ :: _ => within opened .name
  | .closeArray, .array items :: outer => after ((Open.array items).close none) outer
  | .closeObject, .object members name :: outer =>
    after ((Open.object members name).close none) outer
  | _, _ => breakWith (.both .malformed) .separator opened

/-- The state after one more token. -/
def step (st : State) (t : Token) : State :=
  match st with
  | complete v _ => complete v true
  | broken v => broken v
  | within opened .value => readValue .value opened t
  | within opened .firstValue =>
    match t, opened with
    | .closeArray, o :: outer => after (o.close none) outer
    | t, opened => readValue .firstValue opened t
  | within opened .name => readName .name opened t
  | within opened .firstName =>
    match t, opened with
    | .closeObject, o :: outer => after (o.close none) outer
    | t, opened => readName .firstName opened t
  | within opened .colon =>
    match t with
    | .colon => within opened .value
    | _ => breakWith (.both .malformed) .colon opened
  | within opened .separator => readSeparator opened t

/-- What has been read at the end of the text. -/
def reading : State → Reading
  | within opened expected => ⟨breakAt (.both .ended) expected opened, false⟩
  | complete v trailing => ⟨v, trailing⟩
  | broken v => ⟨v, false⟩

end State

/-- The tree of the tokens of a text. -/
def ofTokens (tokens : List Token) : Reading :=
  (tokens.foldl State.step (.within [] .value)).reading

/-- The tree of a byte sequence. -/
def ofSymbols (symbols : List Text.Symbol) : Reading := ofTokens (Json.tokens symbols)

/-- The tree of a text. -/
def ofText (text : String) : Reading := ofSymbols (Text.Symbol.ofText text)

mutual

/-- The fault that a reader meets that skips the value. -/
def skippedFault : Tree → Option Fault
  | .array items cut => (skippedItems items).orElse fun _ => cut.map (·.skipped)
  | .object members cut => (skippedMembers members).orElse fun _ => cut.map (·.skipped)
  | .fault b => some b.skipped
  | _ => none

/-- The first fault met on skipping items. -/
def skippedItems : List Tree → Option Fault
  | [] => none
  | v :: rest => (skippedFault v).orElse fun _ => skippedItems rest

/-- The first fault met on skipping members. -/
def skippedMembers : List (Name × Tree) → Option Fault
  | [] => none
  | (_, v) :: rest => (skippedFault v).orElse fun _ => skippedMembers rest

end

end Tree

end LayoutTrail.Json
