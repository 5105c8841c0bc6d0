import LayoutTrail.Pattern.Basic
import LayoutTrail.Unicode.ByteRun

/-!
# The size of a pattern

How many bytes the automaton of a pattern takes, which reads the bytes of a text from its end.  A
state takes 32 bytes, a way out of a state with several takes 4 more, and a byte interval beside
others takes 8; a group takes a state at either end.  Repetitions are written out, so a short
pattern may have a large automaton.
-/

namespace LayoutTrail.Pattern

open Unicode (CharSet ByteRun Interval)

/-- The size of a state. -/
def stateSize : Nat := 32

/-- The size of a state from which one may go on in two ways. -/
def forkSize : Nat := stateSize + 8

/-- The size of the states for a set of several characters, given its intervals and the runs of
their encodings.  Beginnings of encodings are shared. -/
def severalSize (xs : List Interval) (runs : List ByteRun) : Nat :=
  if xs.all (·.2 < 0x80) then 2 * stateSize + 8 * xs.length
  else 2 * stateSize + stateSize * ByteRun.beginnings [] runs + 4 * runs.length

/-- The size of the states for a set of characters; a single character takes one for each byte. -/
def setSize (set : CharSet) : Nat :=
  let xs := set.intervals
  let runs := xs.flatMap ByteRun.ofInterval
  match xs with
  | [(first, last)] =>
    if first = last then stateSize * runs.head?.elim 0 List.length else severalSize xs runs
  | xs => severalSize xs runs

/-- A bound on what one interval adds to the size of a set. -/
def maxIntervalSize : Nat := 1300

/-- A bound on the size of the states for a set of characters that needs no intervals. -/
def roughSetSize (set : CharSet) : Nat := 2 * stateSize + maxIntervalSize * set.runs

/-- Whether every match of the pattern is of the empty text by its form. -/
def isStatic : Pattern → Bool
  | empty => true
  | char _ => false
  | look _ => true
  | seq a b => a.isStatic && b.isStatic
  | alt a b => a.isStatic && b.isStatic
  | many a _ most => a.isStatic || most == some 0
  | group a => a.isStatic

/-- Whether the pattern may match the empty text. -/
def isNullable : Pattern → Bool
  | empty => true
  | char _ => false
  | look _ => true
  | seq a b => a.isNullable && b.isNullable
  | alt a b => a.isNullable || b.isNullable
  | many a least _ => a.isNullable || least == 0
  | group a => a.isNullable

/-- The size of a repetition of a pattern of a given size. -/
def repeatedSize (size : Nat) (nullable : Bool) : Nat → Option Nat → Nat
  | 0, none => if nullable then size + 2 * forkSize + stateSize else size + forkSize
  | 0, some 0 => stateSize
  | 0, some 1 => size + forkSize + stateSize
  | 0, some most => 2 * stateSize + most * (size + forkSize)
  | least, none => least * size + forkSize
  | least, some most =>
    if most = least then least * size
    else least * size + stateSize + (most - least) * (size + forkSize)

/-- The size of a part of a sequence; an empty part needs no state. -/
def sizeInSequence (size : Nat) : Pattern → Nat
  | empty => 0
  | _ => size

/-- What an alternative adds to a choice; the ways of a choice within a choice become its own. -/
def sizeInChoice (size : Nat) : Pattern → Nat
  | alt _ _ => size - 2 * stateSize
  | _ => size + 4

/-- The size of the automaton, given that of a set.  A repetition of something static counts at
most once. -/
def footprint (setSize : CharSet → Nat) : Pattern → Nat
  | empty => stateSize
  | char set => setSize set
  | look _ => stateSize
  | seq a b =>
    sizeInSequence (a.footprint setSize) a + sizeInSequence (b.footprint setSize) b
  | alt a b =>
    2 * stateSize + sizeInChoice (a.footprint setSize) a + sizeInChoice (b.footprint setSize) b
  | many a least most =>
    if a.isStatic then
      repeatedSize (a.footprint setSize) a.isNullable (min least 1) (some (min (most.getD 1) 1))
    else repeatedSize (a.footprint setSize) a.isNullable least most
  | group a => a.footprint setSize + 2 * stateSize

/-- The set of a pattern that is only that. -/
def set? : Pattern → Option CharSet
  | char set => some set
  | _ => none

end LayoutTrail.Pattern
