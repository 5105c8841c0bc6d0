import LayoutTrail.Json.Decode
import LayoutTrail.Json.Printer
import LayoutTrail.Layout.Document

/-!
# Documents as JSON

How points, boxes, cursors and documents are written and read.  Coordinates may be left out and are
zero then; so may lists of lines, phrases and words, which are empty then.  A document may stand
under the name `lineList` of an object around it.
-/

namespace LayoutTrail

open Json (Decoder Record Value Source ReadError)

namespace Vertex

/-- A point is written with both coordinates. -/
def toJson (v : Vertex) : Value := .object [("x", .float v.x), ("y", .float v.y)]

/-- The coordinates of a point as they are read. -/
structure Parts where
  x : Option Float := none
  y : Option Float := none

/-- How a point is read. -/
def record : Record Parts Vertex where
  name := "Vertex"
  fields := ["x", "y"]
  start := {}
  has name p := if name = "x" then p.x.isSome else p.y.isSome
  read name source t p := do
    let a ← Decoder.float source t
    .ok (if name = "x" then { p with x := some a } else { p with y := some a })
  finish _ p := .ok ⟨p.x.getD 0, p.y.getD 0⟩

/-- Reads a point. -/
def decoder : Decoder Vertex := record.decode

end Vertex

namespace Quad

/-- A box is written as the list of its corners. -/
def toJson (q : Quad) : Value := .array (q.corners.map Vertex.toJson)

/-- Reads a box from exactly four corners. -/
def decoder : Decoder Quad := fun source t => do
  let corners ← Decoder.exactly 4 Vertex.decoder source t
  match corners with
  | [a, b, c, d] => .ok ⟨a, b, c, d⟩
  | _ => .error (.wrongLength corners.length "an array of length 4")

/-- A box inside an object of its own, as it stands beside a text. -/
def toBoxJson (q : Quad) : Value := .object [("normalizedVertices", q.toJson)]

/-- How a box inside an object of its own is read. -/
def boxRecord : Record (Option Quad) Quad where
  name := "BoundingBox"
  fields := ["normalizedVertices"]
  start := none
  has _ p := p.isSome
  read _ source t _ := (decoder source t).map some
  finish missing p := Json.required missing 0 "normalizedVertices" p

/-- Reads a box inside an object of its own. -/
def boxDecoder : Decoder Quad := boxRecord.decode

end Quad

namespace Cursor

/-- A cursor is written with four numbers. -/
def toJson (c : Cursor) : Value :=
  .object [("pageEnd", .nat c.page), ("lineEnd", .nat c.line), ("phraseEnd", .nat c.phrase),
    ("wordEnd", .nat c.word)]

/-- The numbers of a cursor as they are read. -/
structure Parts where
  page : Option Nat := none
  line : Option Nat := none
  phrase : Option Nat := none
  word : Option Nat := none

/-- Reads one of the numbers. -/
def indexDecoder : Decoder Nat := Decoder.natBelow UInt64.size "usize"

/-- How a cursor is read. -/
def record : Record Parts Cursor where
  name := "Cursor"
  fields := ["pageEnd", "lineEnd", "phraseEnd", "wordEnd"]
  start := {}
  has name p :=
    if name = "pageEnd" then p.page.isSome
    else if name = "lineEnd" then p.line.isSome
    else if name = "phraseEnd" then p.phrase.isSome
    else p.word.isSome
  read name source t p := do
    let n ← indexDecoder source t
    .ok (if name = "pageEnd" then { p with page := some n }
      else if name = "lineEnd" then { p with line := some n }
      else if name = "phraseEnd" then { p with phrase := some n }
      else { p with word := some n })
  finish missing p := do
    let page ← Json.required missing 0 "pageEnd" p.page
    let line ← Json.required missing 1 "lineEnd" p.line
    let phrase ← Json.required missing 2 "phraseEnd" p.phrase
    let word ← Json.required missing 3 "wordEnd" p.word
    .ok ⟨page, line, phrase, word⟩

/-- Reads a cursor. -/
def decoder : Decoder Cursor := record.decode

end Cursor

namespace Word

/-- A word is written with its text and box. -/
def toJson (w : Word) : Value :=
  .object [("text", .string w.text), ("boundingBox", w.quad.toBoxJson)]

/-- The parts of a word as they are read. -/
structure Parts where
  text : Option String := none
  quad : Option Quad := none

/-- How a word is read. -/
def record : Record Parts Word where
  name := "Word"
  fields := ["text", "boundingBox"]
  start := {}
  has name p := if name = "text" then p.text.isSome else p.quad.isSome
  read name source t p :=
    if name = "text" then do
      let text ← Decoder.string source t
      .ok { p with text := some text }
    else do
      let quad ← Quad.boxDecoder source t
      .ok { p with quad := some quad }
  finish missing p := do
    let text ← Json.required missing 0 "text" p.text
    let quad ← Json.required missing 1 "boundingBox" p.quad
    .ok ⟨text, quad⟩

/-- Reads a word. -/
def decoder : Decoder Word := record.decode

end Word

namespace Phrase

/-- A phrase is written with its text, box and words. -/
def toJson (p : Phrase) : Value :=
  .object [("text", .string p.text), ("boundingBox", p.quad.toBoxJson),
    ("words", .array (p.words.map Word.toJson))]

/-- The parts of a phrase as they are read. -/
structure Parts where
  text : Option String := none
  quad : Option Quad := none
  words : Option (List Word) := none

/-- How a phrase is read. -/
def record : Record Parts Phrase where
  name := "Phrase"
  fields := ["text", "boundingBox", "words"]
  start := {}
  has name p :=
    if name = "text" then p.text.isSome
    else if name = "boundingBox" then p.quad.isSome
    else p.words.isSome
  read name source t p :=
    if name = "text" then do
      let text ← Decoder.string source t
      .ok { p with text := some text }
    else if name = "boundingBox" then do
      let quad ← Quad.boxDecoder source t
      .ok { p with quad := some quad }
    else do
      let words ← Decoder.list Word.decoder source t
      .ok { p with words := some words }
  finish missing p := do
    let text ← Json.required missing 0 "text" p.text
    let quad ← Json.required missing 1 "boundingBox" p.quad
    .ok ⟨text, quad, p.words.getD []⟩

/-- Reads a phrase. -/
def decoder : Decoder Phrase := record.decode

end Phrase

/-- How a record is read whose only field is a list; `build` makes it from the list, which may be
missing if `mayMiss`. -/
def listRecord {α β : Type} (name field : String) (mayMiss : Bool) (d : Decoder α)
    (build : List α → β) : Record (Option (List α)) β where
  name := name
  fields := [field]
  start := none
  has _ p := p.isSome
  read _ source t _ := (Decoder.list d source t).map some
  finish missing p :=
    match p with
    | some as => .ok (build as)
    | none => if mayMiss then .ok (build []) else .error (missing 0 field)

namespace Line

/-- A line is written with its phrases. -/
def toJson (l : Line) : Value := .object [("phrases", .array (l.phrases.map Phrase.toJson))]

/-- Reads a line. -/
def decoder : Decoder Line := (listRecord "Line" "phrases" true Phrase.decoder Line.mk).decode

end Line

namespace Page

/-- A page is written with its lines. -/
def toJson (p : Page) : Value := .object [("lines", .array (p.lines.map Line.toJson))]

/-- Reads a page. -/
def decoder : Decoder Page := (listRecord "Page" "lines" true Line.decoder Page.mk).decode

end Page

namespace Document

/-- A document is written with its pages. -/
def toJson (d : Document) : Value := .object [("pages", .array (d.pages.map Page.toJson))]

/-- Reads a document that is not inside another object. -/
def decoder : Decoder Document :=
  (listRecord "Document" "pages" false Page.decoder Document.mk).decode

/-- The name of the member that may hold a document. -/
def wrapperName : String := "lineList"

/-- Reads a document from a value, which may hold it under `lineList`. -/
def ofJson (v : Value) : Except ReadError Document :=
  Json.decodeValue decoder ((v.ordered.member? wrapperName).getD v)

/-- Reads a document from a text. -/
def ofText (text : String) : Except ReadError Document := do
  ofJson (← Json.kept (Value.ofText text))

/-- Reads a document from bytes. -/
def ofBytes (bytes : List UInt8) : Except ReadError Document := do
  ofJson (← Json.kept (Value.ofSymbols (Text.Symbol.ofBytes bytes)))

end Document

end LayoutTrail
