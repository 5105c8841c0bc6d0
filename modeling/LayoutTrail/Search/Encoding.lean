import LayoutTrail.Layout.Encoding
import LayoutTrail.Search.Target

/-!
# Steps, targets and anchors as JSON

A target is written so that it can be read back as a target or as an anchor.  What was not found is
written with an empty `value` alone.  The reader of anchors looks only at the text, the position and
the first two corners.
-/

namespace LayoutTrail

open Json (Decoder Record Value Source ReadError)

/-- Reads a name that stands for one of a few things. -/
def nameDecoder {α : Type} (ofName : String → Except Error α) : Decoder α :=
  Decoder.string.checked fun name => (ofName name).mapError Error.message

/-- Reads a method. -/
def Method.decoder : Decoder Method := nameDecoder Method.ofName

/-- Reads a unit. -/
def TextUnit.decoder : Decoder TextUnit := nameDecoder TextUnit.ofName

namespace StepSpec

/-- A step is written with its count and method, and its pattern and unit in an object of their
own. -/
def toJson (s : StepSpec) : Value :=
  .object [("count", .nat s.count.toNat), ("method", .string s.method.name),
    ("target", .object [("pattern", .string s.pattern), ("unit", .string s.unit.name)])]

/-- The pattern and unit as they are read. -/
structure TargetParts where
  pattern : Option String := none
  unit : Option TextUnit := none

/-- How the pattern and unit are read. -/
def targetRecord : Record TargetParts (String × TextUnit) where
  name := "TargetSpec"
  fields := ["pattern", "unit"]
  start := {}
  has name p := if name = "pattern" then p.pattern.isSome else p.unit.isSome
  read name source t p :=
    if name = "pattern" then do
      let pattern ← Decoder.string source t
      .ok { p with pattern := some pattern }
    else do
      let unit ← TextUnit.decoder source t
      .ok { p with unit := some unit }
  finish missing p := do
    let pattern ← Json.required missing 0 "pattern" p.pattern
    let unit ← Json.required missing 1 "unit" p.unit
    .ok (pattern, unit)

/-- The parts of a step as they are read. -/
structure Parts where
  count : Option Nat := none
  method : Option Method := none
  target : Option (String × TextUnit) := none

/-- How a step is read. -/
def record : Record Parts StepSpec where
  name := "ParserSpec"
  fields := ["count", "method", "target"]
  start := {}
  has name p :=
    if name = "count" then p.count.isSome
    else if name = "method" then p.method.isSome
    else p.target.isSome
  read name source t p :=
    if name = "count" then do
      let count ← Decoder.natBelow UInt32.size "u32" source t
      .ok { p with count := some count }
    else if name = "method" then do
      let method ← Method.decoder source t
      .ok { p with method := some method }
    else do
      let target ← targetRecord.decode source t
      .ok { p with target := some target }
  finish missing p := do
    let count ← Json.required missing 0 "count" p.count
    let method ← Json.required missing 1 "method" p.method
    let (pattern, unit) ← Json.required missing 2 "target" p.target
    .ok ⟨.ofNat count, method, pattern, unit⟩

/-- Reads a step. -/
def decoder : Decoder StepSpec := record.decode

/-- Reads a step from a value. -/
def ofJson (v : Value) : Except ReadError StepSpec := Json.decodeValue decoder v

/-- Reads a list of steps from a value; what is not a list is one step. -/
def listOfJson : Value → Except ReadError (List StepSpec)
  | .array items => Json.decodeValue (Decoder.list decoder) (.array items)
  | v => (ofJson v).map fun s => [s]

/-- Reads a list of steps, or one, from a text. -/
def listOfText (text : String) : Except ReadError (List StepSpec) := do
  listOfJson (← Json.kept (Value.ofText text))

end StepSpec

namespace Segment

/-- A part of a phrase is written with its box and text. -/
def toJson (s : Segment) : Value :=
  .object [("normalizedVertices", s.quad.toJson), ("text", .string s.text)]

/-- The box and text as they are read. -/
structure Parts where
  quad : Option Quad := none
  text : Option String := none

/-- How a part of a phrase is read. -/
def record : Record Parts Segment where
  name := "Segment"
  fields := ["normalizedVertices", "text"]
  start := {}
  has name p := if name = "text" then p.text.isSome else p.quad.isSome
  read name source t p :=
    if name = "text" then do
      let text ← Decoder.string source t
      .ok { p with text := some text }
    else do
      let quad ← Quad.decoder source t
      .ok { p with quad := some quad }
  finish missing p := do
    let quad ← Json.required missing 0 "normalizedVertices" p.quad
    let text ← Json.required missing 1 "text" p.text
    .ok ⟨quad, text⟩

end Segment

namespace Segments

/-- The parts of a phrase are written one after the other. -/
def toJson (s : Segments) : Value :=
  .object [("first", s.first.toJson), ("second", s.second.toJson)]

/-- The parts as they are read. -/
structure Parts where
  first : Option Segment := none
  second : Option Segment := none

/-- How the parts of a phrase are read. -/
def record : Record Parts Segments where
  name := "Segments"
  fields := ["first", "second"]
  start := {}
  has name p := if name = "first" then p.first.isSome else p.second.isSome
  read name source t p := do
    let s ← Segment.record.decode source t
    .ok (if name = "first" then { p with first := some s } else { p with second := some s })
  finish missing p := do
    let first ← Json.required missing 0 "first" p.first
    let second ← Json.required missing 1 "second" p.second
    .ok ⟨first, second⟩

end Segments

namespace Target

/-- A target is written with its text, and if it was found with its unit, box and position; a
phrase also has its parts, or `null`. -/
def toJson : Target → Value
  | notFound => .object [("value", .string "")]
  | word m => .object [("value", .string m.value), ("unitType", .string TextUnit.word.name),
      ("normalizedVertices", m.quad.toJson), ("indices", m.cursor.toJson)]
  | phrase m => .object [("value", .string m.value), ("unitType", .string TextUnit.phrase.name),
      ("normalizedVertices", m.quad.toJson), ("indices", m.cursor.toJson),
      ("segments", (m.segments.map Segments.toJson).getD .null)]

/-- The fields of a target as they are read.  A field that has been met is there even if it was
`null`. -/
structure Parts where
  value : Option String := none
  unit : Option (Option TextUnit) := none
  quad : Option (Option Quad) := none
  cursor : Option (Option Cursor) := none
  segments : Option (Option Segments) := none

/-- The fields of a target; a field that is `null` counts as missing. -/
structure Fields where
  value : String
  unit : Option TextUnit
  quad : Option Quad
  cursor : Option Cursor
  segments : Option Segments

/-- The target that fields stand for.  Without a unit nothing was found; with one, a box and a
position are needed. -/
def ofFields (f : Fields) : Except Error Target :=
  match f.unit, f.quad, f.cursor with
  | none, _, _ => .ok notFound
  | some .word, some quad, some cursor => .ok (word ⟨f.value, quad, cursor⟩)
  | some .phrase, some quad, some cursor => .ok (phrase ⟨f.value, quad, cursor, f.segments⟩)
  | some unit, _, _ =>
    .error (.anchor (unit.name ++ " target requires normalizedVertices and indices"))

/-- How the fields of a target are read. -/
def record : Record Parts Fields where
  name := "TargetRepr"
  fields := ["value", "unitType", "normalizedVertices", "indices", "segments"]
  start := {}
  has name p :=
    if name = "value" then p.value.isSome
    else if name = "unitType" then p.unit.isSome
    else if name = "normalizedVertices" then p.quad.isSome
    else if name = "indices" then p.cursor.isSome
    else p.segments.isSome
  read name source t p :=
    if name = "value" then do
      let value ← Decoder.string source t
      .ok { p with value := some value }
    else if name = "unitType" then do
      let unit ← TextUnit.decoder.optional source t
      .ok { p with unit := some unit }
    else if name = "normalizedVertices" then do
      let quad ← Quad.decoder.optional source t
      .ok { p with quad := some quad }
    else if name = "indices" then do
      let cursor ← Cursor.decoder.optional source t
      .ok { p with cursor := some cursor }
    else do
      let segments ← Decoder.optional Segments.record.decode source t
      .ok { p with segments := some segments }
  finish missing p := do
    let value ← Json.required missing 0 "value" p.value
    .ok ⟨value, p.unit.join, p.quad.join, p.cursor.join, p.segments.join⟩

/-- Reads a target. -/
def decoder : Decoder Target :=
  Decoder.checked record.decode fun f => (ofFields f).mapError Error.message

/-- Reads a target from a text. -/
def ofText (text : String) : Except ReadError Target := Json.decodeText decoder text

/-- Reads a target from a value. -/
def ofJson (v : Value) : Except ReadError Target := Json.decodeValue decoder v

end Target

namespace Anchor

/-- The fields of an anchor as they are read. -/
structure Parts where
  value : Option String := none
  cursor : Option Cursor := none
  vertices : Option (List Vertex) := none

/-- The fields of an anchor. -/
structure Fields where
  value : String
  cursor : Cursor
  vertices : List Vertex

/-- The anchor that fields stand for; its extent goes from the first corner to the second. -/
def ofFields (f : Fields) : Except Error Anchor :=
  match f.vertices with
  | left :: right :: _ => .ok ⟨f.value, f.cursor, ⟨left.x, right.x⟩⟩
  | vertices =>
    .error (.anchor ("expected at least 2 vertices, got " ++ toString vertices.length))

/-- How the fields of an anchor are read. -/
def record : Record Parts Fields where
  name := "AnchorRepr"
  fields := ["value", "indices", "normalizedVertices"]
  start := {}
  has name p :=
    if name = "value" then p.value.isSome
    else if name = "indices" then p.cursor.isSome
    else p.vertices.isSome
  read name source t p :=
    if name = "value" then do
      let value ← Decoder.string source t
      .ok { p with value := some value }
    else if name = "indices" then do
      let cursor ← Cursor.decoder source t
      .ok { p with cursor := some cursor }
    else do
      let vertices ← Decoder.list Vertex.decoder source t
      .ok { p with vertices := some vertices }
  finish missing p := do
    let cursor ← Json.required missing 1 "indices" p.cursor
    let vertices ← Json.required missing 2 "normalizedVertices" p.vertices
    .ok ⟨p.value.getD "", cursor, vertices⟩

/-- Reads an anchor. -/
def decoder : Decoder Anchor :=
  Decoder.checked record.decode fun f => (ofFields f).mapError Error.message

/-- Reads an anchor from a text. -/
def ofText (text : String) : Except ReadError Anchor := Json.decodeText decoder text

end Anchor

end LayoutTrail
