import LayoutTrail.Decimal.Fixed
import LayoutTrail.Layout.Document
import LayoutTrail.Report.PageSelection

/-!
# Listing of words

Every word of the selected pages on a line of its own, with its cursor and horizontal extent.
-/

namespace LayoutTrail

/-- A text filled up with spaces to a width. -/
def padRight (width : Nat) (s : String) : String :=
  String.ofList (s.toList ++ List.replicate (width - s.length) ' ')

/-- The width of the cursor column. -/
def cursorWidth : Nat := 12

/-- The number of places of coordinates. -/
def extentPlaces : Nat := 3

/-- The line of a word. -/
def listingLine (c : Cursor) (w : Word) : String :=
  padRight cursorWidth c.toText ++ " [" ++ Decimal.fixed extentPlaces w.quad.left ++ ", " ++
    Decimal.fixed extentPlaces w.quad.right ++ "]  " ++ w.text

/-- The lines of the words of the selected pages. -/
def Document.listingLines (d : Document) (pages : PageSelection) : List String :=
  ((d.positionsFrom .start).filter (pages.includesIndex ·.page)).filterMap fun c =>
    (d.wordAt? c).map (listingLine c)

/-- The listing. -/
def Document.listing (d : Document) (pages : PageSelection) : String :=
  "\n".intercalate (d.listingLines pages)

end LayoutTrail
