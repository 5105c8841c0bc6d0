import LayoutTrail.Layout.Cursor
import LayoutTrail.Layout.Geometry

/-!
# Documents

A document is a list of pages of lines of phrases of words, all in reading order.  `wordAt?` looks a
position up, and `positionsFrom` walks all positions from a cursor on, which need not be one of
them.
-/

namespace LayoutTrail

/-- A word and its box. -/
structure Word where
  text : String
  quad : Quad
  deriving BEq

/-- Words that belong together within a line.  The text is meant to be that of the words, but is
kept as it was given. -/
structure Phrase where
  text : String
  quad : Quad
  words : List Word := []
  deriving BEq

/-- A line of a page. -/
structure Line where
  phrases : List Phrase := []
  deriving BEq

/-- A page. -/
structure Page where
  lines : List Line := []
  deriving BEq

/-- A document. -/
structure Document where
  pages : List Page := []
  deriving BEq

/-- The texts of words with single spaces between them. -/
def joinWords (words : List Word) : String := " ".intercalate (words.map (·.text))

/-- The lower of two numbers; one that is not a number is passed over. -/
def lower (x y : Float) : Float := if y < x then y else x

/-- The higher of two numbers; one that is not a number is passed over. -/
def higher (x y : Float) : Float := if x < y then y else x

/-- The sum of a count over a list. -/
def total {α : Type} (count : α → Nat) (xs : List α) : Nat := xs.foldr (fun x n => count x + n) 0

/-- Positive infinity. -/
def infinity : Float := 1 / 0

namespace Phrase

/-- The phrase of some words: its box goes from the left edge of the first to the right edge of the
last, and covers the tops and bottoms of all. -/
def ofWords (words : List Word) : Phrase where
  text := joinWords words
  quad :=
    match words.head?, words.getLast? with
    | some first, some last =>
      .ofEdges first.quad.left
        ((words.map (·.quad.topLeft.y)).foldl lower infinity)
        last.quad.right
        ((words.map (·.quad.bottomLeft.y)).foldl higher (-infinity))
    | _, _ => {}
  words := words

/-- The number of words. -/
def wordCount (p : Phrase) : Nat := p.words.length

/-- Whether there is no word. -/
def isEmpty (p : Phrase) : Bool := p.words.isEmpty

/-- The index of the last word. -/
def lastIndex? (p : Phrase) : Option Nat := if p.isEmpty then none else some (p.wordCount - 1)

/-- The text of the words from `i` on. -/
def textFrom (p : Phrase) (i : Nat) : String := joinWords (p.words.drop i)

/-- The text of the words before `i`. -/
def textBefore (p : Phrase) (i : Nat) : String := joinWords (p.words.take i)

end Phrase

/-- The number of words of a line. -/
def Line.wordCount (l : Line) : Nat := total Phrase.wordCount l.phrases

namespace Page

/-- The number of words. -/
def wordCount (p : Page) : Nat := total Line.wordCount p.lines

/-- Whether there is no word. -/
def isBlank (p : Page) : Bool := p.wordCount == 0

/-- Adds a line at the end. -/
def addLine (p : Page) (l : Line) : Page := ⟨p.lines ++ [l]⟩

end Page

namespace Document

/-- Adds a page at the end. -/
def addPage (d : Document) (p : Page) : Document := ⟨d.pages ++ [p]⟩

/-- Adds a line at the end of page `i`, if there is such a page. -/
def addLine (d : Document) (i : Nat) (l : Line) : Document := ⟨d.pages.modify i (·.addLine l)⟩

/-- The number of pages. -/
def pageCount (d : Document) : Nat := d.pages.length

/-- The number of lines. -/
def lineCount (d : Document) : Nat := total (·.lines.length) d.pages

/-- The number of phrases. -/
def phraseCount (d : Document) : Nat := total (fun p => total (·.phrases.length) p.lines) d.pages

/-- The number of words. -/
def wordCount (d : Document) : Nat := total Page.wordCount d.pages

/-- Whether there is no word on any page. -/
def isBlank (d : Document) : Bool := d.pages.all Page.isBlank

/-- The phrase that a cursor points into. -/
def phraseAt? (d : Document) (c : Cursor) : Option Phrase := do
  let page ← d.pages[c.page]?
  let line ← page.lines[c.line]?
  line.phrases[c.phrase]?

/-- The word that a cursor names. -/
def wordAt? (d : Document) (c : Cursor) : Option Word := do
  let phrase ← d.phraseAt? c
  phrase.words[c.word]?

end Document

/-- The entries of a list from index `start` on, each with its index. -/
def indexedFrom {α : Type} (start : Nat) (xs : List α) : List (α × Nat) := xs.zipIdx.drop start

/-- The positions of the words from `word` on in a phrase. -/
def Phrase.positionsFrom (p : Phrase) (page line phrase word : Nat) : List Cursor :=
  (indexedFrom word p.words).map fun (_, w) => ⟨page, line, phrase, w⟩

/-- The positions in a line from a phrase and word on. -/
def Line.positionsFrom (l : Line) (page line phrase word : Nat) : List Cursor :=
  (indexedFrom phrase l.phrases).flatMap fun (p, i) =>
    p.positionsFrom page line i (if i = phrase then word else 0)

/-- The positions on a page from a line, phrase and word on. -/
def Page.positionsFrom (p : Page) (page line phrase word : Nat) : List Cursor :=
  (indexedFrom line p.lines).flatMap fun (l, i) =>
    if i = line then l.positionsFrom page i phrase word else l.positionsFrom page i 0 0

/-- The positions of words from a cursor on, in reading order. -/
def Document.positionsFrom (d : Document) (c : Cursor) : List Cursor :=
  (indexedFrom c.page d.pages).flatMap fun (p, i) =>
    if i = c.page then p.positionsFrom i c.line c.phrase c.word else p.positionsFrom i 0 0 0

end LayoutTrail
