import LayoutTrail.Unicode.Name

/-!
# White space around a text
-/

namespace LayoutTrail.Text

/-- White space. -/
def isBlank (c : Char) : Bool := Unicode.CharSet.blank.contains c

/-- Drops white space at the start. -/
def trimStart (cs : List Char) : List Char := cs.dropWhile isBlank

/-- Drops white space at both ends. -/
def trim (cs : List Char) : List Char := (trimStart (trimStart cs).reverse).reverse

end LayoutTrail.Text
