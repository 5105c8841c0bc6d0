import LayoutTrail.Search.Resolve

/-!
# Trails

Steps taken one after the other, each from what the one before has found.  A trail has at least one
step, and all its steps are checked before any is taken.
-/

namespace LayoutTrail

/-- Steps to be taken in order. -/
structure Trail where
  steps : List Step
  steps_ne_nil : steps ≠ []

namespace Trail

/-- Checks steps in order. -/
def stepsOf (options : Options) : List StepSpec → Except Error (List Step)
  | [] => .ok []
  | spec :: rest => do
    let step ← Step.ofSpec options spec
    let rest ← stepsOf options rest
    .ok (step :: rest)

/-- Checks the steps of a trail; there must be one. -/
def ofSpecs (options : Options) (specs : List StepSpec) : Except Error Trail :=
  match stepsOf options specs with
  | .error e => .error e
  | .ok [] => .error .emptyTrail
  | .ok (step :: rest) => .ok ⟨step :: rest, List.cons_ne_nil _ _⟩

/-- Takes steps from an anchor on, up to the first that finds nothing. -/
def follow (d : Document) (anchor : Anchor) : List Step → Target
  | [] => .notFound
  | step :: rest =>
    let target := step.resolve d anchor
    match target.anchor?, rest with
    | none, _ => .notFound
    | some _, [] => target
    | some next, rest => follow d next rest

/-- What each step finds, up to the first that finds nothing. -/
def run (d : Document) (anchor : Anchor) : List Step → List Target
  | [] => []
  | step :: rest =>
    let target := step.resolve d anchor
    match target.anchor? with
    | none => [target]
    | some next => target :: run d next rest

/-- What the trail leads to from an anchor. -/
def resolveFrom (t : Trail) (d : Document) (anchor : Anchor) : Target := follow d anchor t.steps

/-- What the trail leads to from the start of a document. -/
def resolve (t : Trail) (d : Document) : Target := t.resolveFrom d .seed

/-- What the trail leads to in each of several documents. -/
def resolveMany (t : Trail) (ds : List Document) : List Target := ds.map t.resolve

end Trail

/-- Checks steps and takes them from the start of a document. -/
def Document.resolveAll (d : Document) (specs : List StepSpec) : Except Error Target :=
  (Trail.ofSpecs {} specs).map (·.resolve d)

end LayoutTrail
