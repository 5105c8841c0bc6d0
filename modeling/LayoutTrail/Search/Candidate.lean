import LayoutTrail.Search.Target

/-!
# Candidates

The words or phrases that a step may find, in reading order.  A phrase is a candidate at the first
of its words that is not used up; it is tested by its whole text, but what is found of it is the
part from that word on.
-/

namespace LayoutTrail

/-- A word or phrase that a step may find. -/
inductive Candidate
  | word (cursor : Cursor) (w : Word)
  /-- A phrase, with a cursor at its first word that is not used up. -/
  | phrase (cursor : Cursor) (p : Phrase)

/-- The parts of a phrase before word `i` and from it on, if neither is empty. -/
def Phrase.split? (p : Phrase) (i : Nat) : Option Segments :=
  match i with
  | 0 => none
  | k + 1 =>
    match p.words[k]?, p.words[k + 1]? with
    | some last, some next => some
      { first := ⟨p.quad.withRight last.quad.right, p.textBefore i⟩
        second := ⟨p.quad.withLeft next.quad.left, p.textFrom i⟩ }
    | _, _ => none

/-- The extent of a phrase from word `i` on. -/
def Phrase.spanFrom (p : Phrase) (i : Nat) : Span :=
  ⟨if i = 0 then p.quad.left else (p.words[i]?.map (·.quad.left)).getD p.quad.left, p.quad.right⟩

namespace Candidate

/-- The position. -/
def cursor : Candidate → Cursor
  | word c _ => c
  | phrase c _ => c

/-- The text that is tested against the pattern. -/
def text : Candidate → String
  | word _ w => w.text
  | phrase _ p => p.text

/-- The extent that is tested against that of the anchor. -/
def span : Candidate → Span
  | word _ w => w.quad.span
  | phrase c p => p.spanFrom c.word

/-- What is found if the candidate is chosen. -/
def target : Candidate → Target
  | word c w => .word ⟨w.text, w.quad, c⟩
  | phrase c p =>
    let cursor := c.withWord (p.lastIndex?.getD c.word)
    match p.split? c.word with
    | some s => .phrase ⟨s.second.text, s.second.quad, cursor, some s⟩
    | none => .phrase ⟨p.text, p.quad, cursor, none⟩

end Candidate

/-- The candidates of a unit at the given positions.  Of the positions in one phrase only the first
makes it a candidate; `last` is the phrase met before. -/
def Document.candidatesAt (d : Document) (unit : TextUnit) (last : Option (Nat × Nat × Nat)) :
    List Cursor → List Candidate
  | [] => []
  | c :: rest =>
    match unit, d.phraseAt? c with
    | _, none => d.candidatesAt unit last rest
    | .word, some p =>
      match p.words[c.word]? with
      | some w => .word c w :: d.candidatesAt unit last rest
      | none => d.candidatesAt unit last rest
    | .phrase, some p =>
      if last = some c.phraseKey then d.candidatesAt unit last rest
      else .phrase c p :: d.candidatesAt unit (some c.phraseKey) rest

/-- The candidates of a unit from an anchor on. -/
def Document.candidates (d : Document) (unit : TextUnit) (anchor : Anchor) : List Candidate :=
  let positions := d.positionsFrom anchor.cursor
  d.candidatesAt unit none
    (if anchor.consumes then positions.filter (· ≠ anchor.cursor) else positions)

end LayoutTrail
