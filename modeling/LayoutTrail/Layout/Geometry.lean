/-!
# Geometry of a page

Boxes of words and phrases in normalized page coordinates, and the horizontal extents by which
things below one another are told apart.  Coordinates are floats and may be anything a float can
be; only comparisons are made with them.
-/

namespace LayoutTrail

/-- A point of a page. -/
structure Vertex where
  x : Float := 0
  y : Float := 0
  deriving BEq

/-- A box, given by its corners. -/
structure Quad where
  topLeft : Vertex := {}
  topRight : Vertex := {}
  bottomRight : Vertex := {}
  bottomLeft : Vertex := {}
  deriving BEq

/-- A horizontal extent. -/
structure Span where
  left : Float
  right : Float
  deriving BEq

/-- Two extents overlap when they share more than an edge. -/
def Span.overlaps (s t : Span) : Bool := t.right > s.left && t.left < s.right

namespace Quad

/-- The upright box with the given left, top, right and bottom edges. -/
def ofEdges (left top right bottom : Float) : Quad :=
  ⟨⟨left, top⟩, ⟨right, top⟩, ⟨right, bottom⟩, ⟨left, bottom⟩⟩

/-- The left edge, measured at the top. -/
def left (q : Quad) : Float := q.topLeft.x

/-- The right edge, measured at the top. -/
def right (q : Quad) : Float := q.topRight.x

/-- Moves both left corners to `x`. -/
def withLeft (q : Quad) (x : Float) : Quad :=
  { q with topLeft.x := x, bottomLeft.x := x }

/-- Moves both right corners to `x`. -/
def withRight (q : Quad) (x : Float) : Quad :=
  { q with topRight.x := x, bottomRight.x := x }

/-- The horizontal extent. -/
def span (q : Quad) : Span := ⟨q.left, q.right⟩

/-- The corners clockwise from the top left one. -/
def corners (q : Quad) : List Vertex := [q.topLeft, q.topRight, q.bottomRight, q.bottomLeft]

end Quad

end LayoutTrail
