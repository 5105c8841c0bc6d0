import LayoutTrail.Pattern.Footprint
import LayoutTrail.Pattern.Plan
import LayoutTrail.Pattern.Token

/-!
# Reading a pattern

Tokens are put together with one frame for each open group.  A pattern is refused if it is
malformed, if it nests too deep, or if its automaton would be too large.
-/

namespace LayoutTrail.Pattern

/-- A part of a sequence.  A directive is a part that cannot be repeated. -/
structure Piece where
  pattern : Pattern
  height : Nat
  repeatable : Bool

/-- One piece after the other; a single piece adds no height. -/
def Piece.seqOf : List Piece → Piece
  | [] => ⟨.empty, 0, true⟩
  | [p] => p
  | ps => ⟨.seqOf (ps.map (·.pattern)), 1 + (ps.map (·.height)).foldl max 0, true⟩

/-- Any one of the patterns; sets of characters are put together into one. -/
def joinAlternatives (p : Pattern) (ps : List Pattern) : Pattern :=
  match (p :: ps).mapM Pattern.set? with
  | some sets => .char (.unionOf sets)
  | none => .altOf p ps

/-- Any one of the pieces; a single piece adds no height. -/
def Piece.altOf (p : Piece) : List Piece → Piece
  | [] => p
  | ps => ⟨joinAlternatives p.pattern (ps.map (·.pattern)),
      1 + (ps.map (·.height)).foldl max p.height, true⟩

/-- What has been read of one group: the finished alternatives and the pieces of the current one,
both latest first. -/
structure Frame where
  finished : List Piece := []
  current : List Piece := []

namespace Frame

/-- Adds a piece to the current alternative. -/
def add (frame : Frame) (p : Piece) : Frame := { frame with current := p :: frame.current }

/-- Ends the current alternative. -/
def bar (frame : Frame) : Frame := ⟨Piece.seqOf frame.current.reverse :: frame.finished, []⟩

/-- The group as a whole. -/
def whole (frame : Frame) : Piece :=
  match (Piece.seqOf frame.current.reverse :: frame.finished).reverse with
  | [] => Piece.seqOf []
  | p :: ps => Piece.altOf p ps

end Frame

/-- The state between two tokens: the innermost group, the flags in force in it, and for each group
that is open what stands around it and whether the place of the group is kept. -/
structure State where
  flags : Flags
  frame : Frame := {}
  outer : List (Frame × Flags × Bool) := []
  names : List (List Char) := []

/-- The state after one more token. -/
def State.push (st : State) : Token → Except Fault State
  | .atom p height => .ok { st with frame := st.frame.add ⟨p, height, true⟩ }
  | .directive changes =>
    .ok { st with flags := st.flags.change changes, frame := st.frame.add ⟨.empty, 0, false⟩ }
  | .openGroup changes kind =>
    let name := kind.name?
    if name.any st.names.contains then .error .malformed
    else .ok
      { flags := st.flags.change changes
        frame := {}
        outer := (st.frame, st.flags, kind.isKept) :: st.outer
        names := name.toList ++ st.names }
  | .closeGroup =>
    match st.outer with
    | [] => .error .malformed
    | (frame, flags, kept) :: outer =>
      let inner := st.frame.whole
      let pattern := if kept then .group inner.pattern else inner.pattern
      .ok { st with
        flags := flags
        frame := frame.add ⟨pattern, inner.height + 1, true⟩
        outer := outer }
  | .bar => .ok { st with frame := st.frame.bar }
  | .repeated least most =>
    match st.frame.current with
    | p :: current =>
      if p.repeatable then
        .ok { st with frame :=
          ⟨st.frame.finished, ⟨.many p.pattern least most, p.height + 1, true⟩ :: current⟩ }
      else .error .malformed
    | [] => .error .malformed

/-- The whole pattern, once the text is at its end. -/
def State.finish (st : State) : Except Fault Piece :=
  if st.outer.isEmpty then .ok st.frame.whole else .error .malformed

/-- Reads tokens up to the end of the text.  Every token leaves less to read. -/
def readTokens (st : State) (cs : List Char) : Except Fault Piece :=
  match st.flags.skip cs with
  | [] => st.finish
  | c :: rest =>
    match readToken st.flags c rest with
    | .error e => .error e
    | .ok (token, rest) =>
      match st.push token with
      | .error e => .error e
      | .ok st => if rest.length < cs.length then readTokens st rest else .error .malformed
termination_by cs.length

/-- How deep a pattern may nest. -/
def maxHeight : Nat := 250

/-- How large the automaton of a pattern may be, in bytes. -/
def maxFootprint : Nat := 10 * 1024 * 1024

/-- Whether the automaton of a pattern is too large.  Sets are measured only if the rough bound
does not settle it. -/
def isTooLarge (p : Pattern) : Bool :=
  p.footprint roughSetSize > maxFootprint && p.footprint setSize > maxFootprint

/-- Reads a pattern, starting with the given flags. -/
def read (flags : Flags) (text : String) : Except Fault Pattern := do
  let piece ← readTokens { flags := flags } text.toList
  if piece.height > maxHeight then .error .malformed
  if isTooLarge piece.pattern then .error .tooLarge
  .ok piece.pattern

/-- The text whose pattern matches where `text` matches the whole: anchors around a group. -/
def anchoredText (text : String) : String := "^(?:" ++ text ++ ")$"

/-- Reads a pattern to be tested against whole texts.  The anchors are put around the text and the
result is read as one pattern. -/
def readAnchored (ignoreCase : Bool) (text : String) : Except Fault Pattern :=
  read { ignoreCase := ignoreCase } (anchoredText text)

end LayoutTrail.Pattern
