import LayoutTrail.Json.ReadError

/-!
# Reading values of given types

A decoder walks the tree of a text from the left and stops at the first thing it objects to.  The
tree comes from the text itself, or from a value that was read before; the two differ where more
items follow than a sequence of fixed length has.

A record is read from an object, whose members may come in any order and may include unknown ones,
or from an array of its fields in their order.
-/

namespace LayoutTrail.Json

/-- What a tree was made from. -/
inductive Source
  | text
  | value
  deriving DecidableEq, Repr

/-- Reads a value of type `α`. -/
abbrev Decoder (α : Type) := Source → Tree → Except ReadError α

/-- A value that must be free of faults. -/
def kept {α : Type} : Except Fault α → Except ReadError α
  | .ok a => .ok a
  | .error f => .error (.text f)

/-- The error for a tree that is not what is expected; a fault comes first, but the inside of a
container is not looked at. -/
def mismatch {α : Type} (expected : String) : Tree → Except ReadError α
  | .null => .error (.wrongType .null expected)
  | .bool b => .error (.wrongType (.bool b) expected)
  | .number n => do .error (.wrongType (.number (← kept n)) expected)
  | .string s => do .error (.wrongType (.string (← kept s)) expected)
  | .array _ _ => .error (.wrongType .sequence expected)
  | .object _ _ => .error (.wrongType .map expected)
  | .fault b => .error (.text b.needed)

/-- The end of a container. -/
def endOf (cut : Option Break) : Except ReadError Unit := kept (Tree.cutFault cut)

namespace Decoder

/-- A text. -/
def string : Decoder String
  | _, .string s => kept s
  | _, t => mismatch "a string" t

/-- A float; integers are converted. -/
def float : Decoder Float
  | _, .number n => do
    match ← kept n with
    | .float x => .ok x
    | .integer n => .ok (if n < 0 then -Float.ofNat n.natAbs else Float.ofNat n.natAbs)
  | _, t => mismatch "f64" t

/-- A natural number below `bound`, of a kind named in messages. -/
def natBelow (bound : Nat) (kind : String) : Decoder Nat
  | _, .number n => do
    match ← kept n with
    | .integer n =>
      if 0 ≤ n && n < (bound : Int) then .ok n.toNat
      else .error (.wrongValue (.number (.integer n)) kind)
    | .float x => .error (.wrongType (.number (.float x)) kind)
  | _, t => mismatch kind t

/-- A value, or `null` for none. -/
def optional {α : Type} (d : Decoder α) : Decoder (Option α)
  | _, .null => .ok none
  | source, t => (d source t).map some

/-- A value that a further condition may refuse. -/
def checked {α β : Type} (d : Decoder α) (check : α → Except String β) : Decoder β :=
  fun source t => do
    match check (← d source t) with
    | .ok b => .ok b
    | .error why => .error (.refused why)

/-- Items one after the other. -/
def items {α : Type} (d : Decoder α) (source : Source) : List Tree → Except ReadError (List α)
  | [] => .ok []
  | t :: rest => do
    let a ← d source t
    let rest ← items d source rest
    .ok (a :: rest)

/-- A sequence of any length. -/
def list {α : Type} (d : Decoder α) : Decoder (List α)
  | source, .array ts cut => do
    let as ← items d source ts
    endOf cut
    .ok as
  | _, t => mismatch "a sequence" t

/-- Checks that no more than `length` items stand in an array of which those have been read. -/
def noMore (source : Source) (length : Nat) (ts : List Tree) (cut : Option Break) :
    Except ReadError Unit :=
  if ts.length ≤ length then endOf cut
  else match source with
    | .text => .error (.text .malformed)
    | .value => .error (.wrongLength ts.length "fewer elements in array")

/-- A sequence of exactly `length` items. -/
def exactly {α : Type} (length : Nat) (d : Decoder α) : Decoder (List α)
  | source, .array ts cut => do
    let expected := "an array of length " ++ toString length
    let as ← items d source (ts.take length)
    if ts.length < length then do
      endOf cut
      .error (.wrongLength ts.length expected)
    else do
      noMore source length ts cut
      .ok as
  | _, t => mismatch ("an array of length " ++ toString length) t

/-- Members with any names, in their order. -/
def entries {α : Type} (d : Decoder α) (source : Source) :
    List (Name × Tree) → Except ReadError (List (String × α))
  | [] => .ok []
  | (name, t) :: rest => do
    let name ← kept name
    let a ← d source t
    let rest ← entries d source rest
    .ok ((name, a) :: rest)

/-- An object with any names. -/
def map {α : Type} (d : Decoder α) : Decoder (List (String × α))
  | source, .object members cut => do
    let as ← entries d source members
    endOf cut
    .ok as
  | _, t => mismatch "a map" t

end Decoder

/-- How the fields of a record of type `α` are read into parts of type `σ`. -/
structure Record (σ α : Type) where
  /-- The name of the record in messages. -/
  name : String
  /-- The names of its fields. -/
  fields : List String
  /-- No field read. -/
  start : σ
  /-- Whether a field has been read. -/
  has : String → σ → Bool
  /-- Reads one of the fields. -/
  read : String → Source → Tree → σ → Except ReadError σ
  /-- The record, given the error for a missing field with its position and name. -/
  finish : (Nat → String → ReadError) → σ → Except ReadError α

namespace Record

variable {σ α : Type}

/-- Reads members in their order; those with other names than the fields are skipped. -/
def readMembers (r : Record σ α) (source : Source) (parts : σ) :
    List (Name × Tree) → Except ReadError σ
  | [] => .ok parts
  | (name, t) :: rest => do
    let name ← kept name
    if r.fields.contains name then do
      if r.has name parts then .error (.duplicateField name)
      let parts ← r.read name source t parts
      readMembers r source parts rest
    else
      match t.skippedFault with
      | some f => .error (.text f)
      | none => readMembers r source parts rest

/-- Reads items as the fields with the given names. -/
def readItems (r : Record σ α) (source : Source) (parts : σ) :
    List String → List Tree → Except ReadError σ
  | name :: names, t :: rest => do
    let parts ← r.read name source t parts
    readItems r source parts names rest
  | _, _ => .ok parts

/-- What is expected where a record with too few fields stands. -/
def arity (r : Record σ α) : String :=
  "struct " ++ r.name ++ " with " ++ toString r.fields.length ++
    (if r.fields.length = 1 then " element" else " elements")

/-- Reads a record. -/
def decode (r : Record σ α) : Decoder α
  | source, .object members cut => do
    let parts ← r.readMembers source r.start members
    endOf cut
    r.finish (fun _ name => .missingField name) parts
  | source, .array ts cut => do
    let parts ← r.readItems source r.start r.fields ts
    if ts.length < r.fields.length then endOf cut
    let a ← r.finish (fun i _ => .wrongLength i r.arity) parts
    Decoder.noMore source r.fields.length ts cut
    .ok a
  | _, t => mismatch ("struct " ++ r.name) t

end Record

/-- A field that must be there. -/
def required {α : Type} (missing : Nat → String → ReadError) (i : Nat) (name : String) :
    Option α → Except ReadError α
  | some a => .ok a
  | none => .error (missing i name)

/-- Reads a text that holds one value and nothing else. -/
def decodeReading {α : Type} (d : Decoder α) (r : Tree.Reading) : Except ReadError α := do
  let a ← d .text r.tree
  if r.trailing then .error (.text .malformed)
  .ok a

/-- Reads a text directly. -/
def decodeText {α : Type} (d : Decoder α) (text : String) : Except ReadError α :=
  decodeReading d (Tree.ofText text)

/-- Reads from a value; its members are visited in the order of their names. -/
def decodeValue {α : Type} (d : Decoder α) (v : Value) : Except ReadError α :=
  d .value v.ordered.toTree

end LayoutTrail.Json
