import LayoutTrail.Layout.Document
import LayoutTrail.Search.Step

/-!
# Targets and anchors

A target is what a step has found, and an anchor is what the next step starts from: a text, a
position and a horizontal extent.  Every found target is an anchor.  An anchor whose text is not
empty stands for something that has been used up, so the search goes on after it.
-/

namespace LayoutTrail

/-- One of the two parts of a phrase. -/
structure Segment where
  quad : Quad
  text : String
  deriving BEq

/-- The parts of a phrase of which the first has been used up. -/
structure Segments where
  first : Segment
  second : Segment
  deriving BEq

/-- A word that was found. -/
structure WordMatch where
  value : String
  quad : Quad
  cursor : Cursor
  deriving BEq

/-- A phrase that was found, or the rest of one; the cursor names its last word. -/
structure PhraseMatch where
  value : String
  quad : Quad
  cursor : Cursor
  segments : Option Segments
  deriving BEq

/-- What a step finds. -/
inductive Target
  | notFound
  | word (m : WordMatch)
  | phrase (m : PhraseMatch)
  deriving BEq

/-- What a step starts from. -/
structure Anchor where
  value : String
  cursor : Cursor
  span : Span

namespace Target

/-- Whether there is something. -/
def isFound : Target → Bool
  | notFound => false
  | _ => true

/-- The text that was found, empty if there is none. -/
def value : Target → String
  | notFound => ""
  | word m => m.value
  | phrase m => m.value

/-- The unit of what was found. -/
def unit? : Target → Option TextUnit
  | notFound => none
  | word _ => some .word
  | phrase _ => some .phrase

/-- The position of the last word. -/
def cursor? : Target → Option Cursor
  | notFound => none
  | word m => some m.cursor
  | phrase m => some m.cursor

/-- The box of what was found. -/
def quad? : Target → Option Quad
  | notFound => none
  | word m => some m.quad
  | phrase m => some m.quad

/-- The parts of a phrase that was found in part. -/
def segments? : Target → Option Segments
  | phrase m => m.segments
  | _ => none

/-- The anchor for the next step. -/
def anchor? : Target → Option Anchor
  | notFound => none
  | word m => some ⟨m.value, m.cursor, m.quad.span⟩
  | phrase m => some ⟨m.value, m.cursor, m.quad.span⟩

end Target

namespace Anchor

/-- The right end of the extent of the seed. -/
def seedRight : Float := 0.9999999

/-- The anchor at the start of a document. -/
def seed : Anchor := ⟨"", .start, ⟨0, seedRight⟩⟩

/-- Whether the word at the cursor has been used up. -/
def consumes (a : Anchor) : Bool := !a.value.isEmpty

end Anchor

end LayoutTrail
