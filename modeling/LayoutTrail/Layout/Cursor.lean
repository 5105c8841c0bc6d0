/-!
# Positions in a document

A cursor names a word by the page, line, phrase and word counted from zero.  Cursors are compared
in reading order.
-/

namespace LayoutTrail

/-- A position of a word. -/
structure Cursor where
  page : Nat := 0
  line : Nat := 0
  phrase : Nat := 0
  word : Nat := 0
  deriving DecidableEq, Repr

namespace Cursor

/-- The start of a document. -/
def start : Cursor := {}

/-- The page and line. -/
def lineKey (c : Cursor) : Nat × Nat := (c.page, c.line)

/-- The page, line and phrase. -/
def phraseKey (c : Cursor) : Nat × Nat × Nat := (c.page, c.line, c.phrase)

/-- Another word of the same phrase. -/
def withWord (c : Cursor) (word : Nat) : Cursor := { c with word := word }

/-- Reading order. -/
def before (c d : Cursor) : Prop :=
  c.page < d.page ∨ (c.page = d.page ∧
    (c.line < d.line ∨ (c.line = d.line ∧
      (c.phrase < d.phrase ∨ (c.phrase = d.phrase ∧ c.word < d.word)))))

instance : LT Cursor := ⟨before⟩

instance : LE Cursor := ⟨fun c d => c < d ∨ c = d⟩

instance (c d : Cursor) : Decidable (c < d) := by
  change Decidable (before c d)
  unfold before
  infer_instance

instance (c d : Cursor) : Decidable (c ≤ d) := by
  change Decidable (c < d ∨ c = d)
  infer_instance

/-- Reading order as a three-way comparison. -/
def compare (c d : Cursor) : Ordering :=
  if c < d then .lt else if c = d then .eq else .gt

/-- The four numbers with colons between them. -/
def toText (c : Cursor) : String :=
  toString c.page ++ ":" ++ toString c.line ++ ":" ++ toString c.phrase ++ ":" ++ toString c.word

end Cursor

end LayoutTrail
