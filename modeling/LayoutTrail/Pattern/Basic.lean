import LayoutTrail.Unicode.Name

/-!
# Patterns

The patterns that candidates are tested against, and what they match: `Spans text p i j` says that
`p` can match the characters of `text` from position `i` to position `j`.  Whether a match is greedy
cannot be seen in a test, so repetitions do not record it.
-/

namespace LayoutTrail

open Unicode (CharSet)

/-- Which characters make words, for assertions about word boundaries. -/
inductive WordRule
  | unicode
  | ascii
  deriving DecidableEq, Repr

/-- The letters, digits and connectors among the first 128 characters. -/
def asciiWord : CharSet :=
  .unionOf [.range 0x30 0x39, .range 0x41 0x5A, .range 0x5F 0x5F, .range 0x61 0x7A]

/-- Whether there is a character, and one of a word. -/
def WordRule.isWord (rule : WordRule) : Option Char → Bool
  | none => false
  | some c => match rule with
    | unicode => CharSet.word.contains c
    | ascii => asciiWord.contains c

/-- An assertion about a position; it consumes nothing. -/
inductive Look
  | textStart
  | textEnd
  | lineStart
  | lineEnd
  /-- Start of a line, where `\r`, `\n` and `\r\n` end lines. -/
  | anyLineStart
  /-- End of a line, where `\r`, `\n` and `\r\n` end lines. -/
  | anyLineEnd
  | boundary (rule : WordRule)
  | notBoundary (rule : WordRule)
  | wordStart (rule : WordRule)
  | wordEnd (rule : WordRule)
  | wordStartHalf (rule : WordRule)
  | wordEndHalf (rule : WordRule)
  deriving DecidableEq, Repr

/-- Whether an assertion holds between the characters before and after a position. -/
def Look.holds : Look → Option Char → Option Char → Bool
  | textStart, before, _ => before.isNone
  | textEnd, _, after => after.isNone
  | lineStart, before, _ => before.isNone || before == some '\n'
  | lineEnd, _, after => after.isNone || after == some '\n'
  | anyLineStart, before, after =>
    before.isNone || before == some '\n' || (before == some '\r' && after != some '\n')
  | anyLineEnd, before, after =>
    after.isNone || after == some '\r' || (after == some '\n' && before != some '\r')
  | boundary rule, before, after => rule.isWord before != rule.isWord after
  | notBoundary rule, before, after => rule.isWord before == rule.isWord after
  | wordStart rule, before, after => !rule.isWord before && rule.isWord after
  | wordEnd rule, before, after => rule.isWord before && !rule.isWord after
  | wordStartHalf rule, before, _ => !rule.isWord before
  | wordEndHalf rule, _, after => !rule.isWord after

/-- A pattern. -/
inductive Pattern
  | empty
  | char (set : CharSet)
  | look (l : Look)
  | seq (a b : Pattern)
  | alt (a b : Pattern)
  /-- At least `least` and at most `most` matches of `a` in a row. -/
  | many (a : Pattern) (least : Nat) (most : Option Nat)
  /-- A part whose place in a match is kept; a test does not ask for it. -/
  | group (a : Pattern)

namespace Pattern

/-- One pattern after the other. -/
def seqOf : List Pattern → Pattern
  | [] => empty
  | [p] => p
  | p :: ps => seq p (seqOf ps)

/-- Any one of the patterns; there is at least one. -/
def altOf (p : Pattern) : List Pattern → Pattern
  | [] => p
  | q :: qs => alt p (altOf q qs)

/-- The characters before and after a position of a text. -/
def around (text : List Char) (i : Nat) : Option Char × Option Char :=
  (if i = 0 then none else text[i - 1]?, text[i]?)

/-- `k` steps of a relation between positions. -/
def Steps (step : Nat → Nat → Prop) : Nat → Nat → Nat → Prop
  | 0, i, j => i = j
  | k + 1, i, j => ∃ m, step i m ∧ Steps step k m j

/-- `p` can match `text` from position `i` to position `j`. -/
def Spans (text : List Char) : Pattern → Nat → Nat → Prop
  | empty, i, j => i = j
  | char set, i, j => j = i + 1 ∧ ∃ c, text[i]? = some c ∧ set.contains c = true
  | look l, i, j => i = j ∧ l.holds (around text i).1 (around text i).2 = true
  | seq a b, i, j => ∃ m, Spans text a i m ∧ Spans text b m j
  | alt a b, i, j => Spans text a i j ∨ Spans text b i j
  | many a least most, i, j =>
    ∃ k, least ≤ k ∧ (∀ m ∈ most, k ≤ m) ∧ Steps (Spans text a) k i j
  | group a, i, j => Spans text a i j

/-- `p` can match the whole of `text`. -/
def MatchesWhole (p : Pattern) (text : List Char) : Prop := Spans text p 0 text.length

/-- `p` can match some part of `text`, which may be empty. -/
def Occurs (p : Pattern) (text : List Char) : Prop :=
  ∃ i j, i ≤ text.length ∧ Spans text p i j

end Pattern

end LayoutTrail
