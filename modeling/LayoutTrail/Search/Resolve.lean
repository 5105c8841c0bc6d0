import LayoutTrail.Search.Candidate

/-!
# Resolving a step

A step goes through the candidates after its anchor and takes the one at its count among those that
qualify.  A candidate qualifies if the pattern matches its text and, for the method `below`, if it
overlaps the anchor and is the first of its line to do so.
-/

namespace LayoutTrail

/-- The candidate at place `count` among those that qualify; `line` is the line of the last one that
did. -/
def Step.choose (step : Step) (reference : Span) :
    Nat → Option (Nat × Nat) → List Candidate → Option Candidate
  | _, _, [] => none
  | count, line, c :: rest =>
    let qualifies := step.accepts c.text &&
      match step.method with
      | .after => true
      | .below => line != some c.cursor.lineKey && reference.overlaps c.span
    if qualifies then
      if count ≤ 1 then some c
      else step.choose reference (count - 1) (some c.cursor.lineKey) rest
    else step.choose reference count line rest

/-- What a step finds in a document from an anchor on.  An anchor that has used up a word which is
not in the document leads nowhere. -/
def Step.resolve (step : Step) (d : Document) (anchor : Anchor) : Target :=
  if anchor.consumes && (d.wordAt? anchor.cursor).isNone then .notFound
  else
    match step.choose anchor.span step.count none (d.candidates step.unit anchor) with
    | some c => c.target
    | none => .notFound

/-- Checks a step and resolves it. -/
def StepSpec.resolve (spec : StepSpec) (d : Document) (anchor : Anchor) : Except Error Target :=
  (Step.ofSpec {} spec).map (·.resolve d anchor)

end LayoutTrail
