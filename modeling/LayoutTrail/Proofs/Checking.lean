import LayoutTrail.Proofs.Anchoring

/-!
# Checking steps first or one by one

A trail checks all its steps before it takes any.  Steps can also be checked one by one, each when it
is reached; then a step behind one that finds nothing is never looked at.  Of steps that can all be
used the two ways make the same, and of others a trail tells what is wrong with the first, whatever
the document is.
-/

namespace LayoutTrail

variable {options : Options} {spec : StepSpec} {specs : List StepSpec} {e : Error}

/-- What is wrong with a step.  A count of zero hides what is wrong with the pattern. -/
def StepSpec.fault? (options : Options) (spec : StepSpec) : Option Error :=
  if spec.count = 0 then some .zeroCount
  else match Pattern.readAnchored options.ignoreCase spec.pattern with
    | .ok _ => none
    | .error fault => some (.pattern spec.pattern fault)

/-- What is wrong with steps as a trail: there are none, or the first fault in their order. -/
def Trail.fault? (options : Options) (specs : List StepSpec) : Option Error :=
  if specs = [] then some .emptyTrail else specs.findSome? (StepSpec.fault? options)

theorem StepSpec.isSome_fault?_iff : (spec.fault? options).isSome ↔
    spec.count = 0 ∨ ∃ fault, Pattern.readAnchored options.ignoreCase spec.pattern = .error fault := by
  unfold fault?
  by_cases hc : spec.count = 0
  · simp only [hc, if_true, Option.isSome_some, true_or]
  · cases hp : Pattern.readAnchored options.ignoreCase spec.pattern <;> simp [hc]

theorem Trail.isSome_fault?_iff (options : Options) (specs : List StepSpec) :
    (fault? options specs).isSome ↔
    specs = [] ∨ ∃ spec ∈ specs, spec.count = 0 ∨
      ∃ fault, Pattern.readAnchored options.ignoreCase spec.pattern = .error fault := by
  unfold fault?
  by_cases hnil : specs = []
  · simp only [hnil, if_true, Option.isSome_some, true_or]
  · simp only [hnil, if_false, false_or, List.isSome_findSome?, List.any_eq_true,
      StepSpec.isSome_fault?_iff]

/-- A step can be used if nothing is wrong with it. -/
theorem Step.ofSpec_cases (options : Options) (spec : StepSpec) :
    (∃ e, Step.ofSpec options spec = .error e ∧ spec.fault? options = some e) ∨
      ∃ step, Step.ofSpec options spec = .ok step ∧ spec.fault? options = none := by
  have hzero : 0 < spec.count.toNat ↔ spec.count ≠ 0 := by
    rw [Ne, ← UInt32.toNat_inj]
    exact Nat.pos_iff_ne_zero
  unfold Step.ofSpec StepSpec.fault?
  by_cases hc : spec.count = 0
  · have hpos : ¬ 0 < spec.count.toNat := fun h => hzero.mp h hc
    rw [dif_neg hpos, if_pos hc]
    exact Or.inl ⟨_, rfl, rfl⟩
  · rw [dif_pos (hzero.mpr hc), if_neg hc]
    cases Pattern.readAnchored options.ignoreCase spec.pattern with
    | ok pattern => exact Or.inr ⟨_, rfl, rfl⟩
    | error fault => exact Or.inl ⟨_, rfl, rfl⟩

namespace Trail

theorem exists_ok_of_map_toOption {ε α β : Type} {e : Except ε α} {f : α → β} {b : β}
    (h : e.toOption.map f = some b) : ∃ x, e = .ok x ∧ f x = b := by
  cases e with
  | error _ => cases h
  | ok x => exact ⟨x, rfl, Option.some.inj h⟩

theorem stepsOf_cons_of_error (h : Step.ofSpec options spec = .error e) :
    stepsOf options (spec :: specs) = .error e := by
  simp only [stepsOf, h, bind, Except.bind]

theorem stepsOf_cons_of_ok {step : Step} (h : Step.ofSpec options spec = .ok step) :
    stepsOf options (spec :: specs) = (stepsOf options specs).map (step :: ·) := by
  simp only [stepsOf, h, bind, Except.bind]
  cases stepsOf options specs <;> rfl

/-- Steps that can all be used are the first of them and the others. -/
theorem exists_of_stepsOf_cons {steps : List Step}
    (h : stepsOf options (spec :: specs) = .ok steps) : ∃ step rest,
      Step.ofSpec options spec = .ok step ∧ stepsOf options specs = .ok rest ∧
        steps = step :: rest := by
  cases hs : Step.ofSpec options spec with
  | error e =>
    rw [stepsOf_cons_of_error hs] at h
    cases h
  | ok step =>
    rw [stepsOf_cons_of_ok hs] at h
    cases hr : stepsOf options specs with
    | error e =>
      rw [hr] at h
      cases h
    | ok rest =>
      rw [hr] at h
      exact ⟨step, rest, rfl, rfl, (Except.ok.inj h).symm⟩

/-- Steps are refused for the first fault among them; none are left out. -/
theorem stepsOf_cases (options : Options) (specs : List StepSpec) :
    (∃ e, stepsOf options specs = .error e ∧ specs.findSome? (StepSpec.fault? options) = some e) ∨
      ∃ steps, stepsOf options specs = .ok steps ∧ (steps = [] ↔ specs = []) ∧
        specs.findSome? (StepSpec.fault? options) = none := by
  induction specs with
  | nil => exact Or.inr ⟨[], rfl, iff_of_true rfl rfl, rfl⟩
  | cons spec specs ih =>
    rw [List.findSome?_cons]
    rcases Step.ofSpec_cases options spec with ⟨e, he, hf⟩ | ⟨step, hs, hf⟩
    · rw [stepsOf_cons_of_error he, hf]
      exact Or.inl ⟨e, rfl, rfl⟩
    · rw [stepsOf_cons_of_ok hs, hf]
      rcases ih with ⟨e, he, hfs⟩ | ⟨steps, hsteps, _, hfs⟩
      · exact Or.inl ⟨e, by rw [he]; rfl, hfs⟩
      · refine Or.inr ⟨step :: steps, by rw [hsteps]; rfl, ?_, hfs⟩
        simp only [reduceCtorEq]

theorem ofSpecs_cases (options : Options) (specs : List StepSpec) :
    (∃ e, ofSpecs options specs = .error e ∧ fault? options specs = some e) ∨
      ∃ t, ofSpecs options specs = .ok t ∧ stepsOf options specs = .ok t.steps ∧
        fault? options specs = none := by
  unfold ofSpecs fault?
  rcases stepsOf_cases options specs with ⟨e, he, hf⟩ | ⟨steps, hsteps, hnil, hf⟩
  · have hne : specs ≠ [] := by
      rintro rfl
      cases hf
    rw [he, if_neg hne]
    exact Or.inl ⟨e, rfl, hf⟩
  · rw [hsteps]
    cases steps with
    | nil => exact Or.inl ⟨_, rfl, if_pos (hnil.mp rfl)⟩
    | cons step rest =>
      have hne : specs ≠ [] := fun h => List.cons_ne_nil step rest (hnil.mpr h)
      rw [if_neg hne]
      exact Or.inr ⟨_, rfl, rfl, hf⟩

end Trail

namespace Document

/-- Checks and takes steps one by one from an anchor on; `found` is what the step before them has
found.  The first step that finds nothing is the last that is looked at. -/
def foldSteps (d : Document) (a : Anchor) (found : Target) : List StepSpec → Except Error Target
  | [] => .ok found
  | spec :: rest => do
    let found ← spec.resolve d a
    match found.anchor? with
    | some next => d.foldSteps next found rest
    | none => .ok found

/-- Of steps that can all be used the fold makes their run. -/
theorem foldSteps_eq_getLast? (d : Document) (a : Anchor) (found : Target) {steps : List Step}
    (h : Trail.stepsOf {} specs = .ok steps) :
    d.foldSteps a found specs = .ok ((Trail.run d a steps).getLast?.getD found) := by
  induction specs generalizing a found steps with
  | nil =>
    obtain rfl : [] = steps := Except.ok.inj h
    rfl
  | cons spec specs ih =>
    obtain ⟨step, rest, hs, hrest, rfl⟩ := Trail.exists_of_stepsOf_cons h
    have hresolve : spec.resolve d a = .ok (step.resolve d a) := by
      rw [StepSpec.resolve, hs]
      rfl
    simp only [foldSteps, hresolve, bind, Except.bind]
    cases hnext : (step.resolve d a).anchor? with
    | none =>
      have hnone := Target.anchor?_eq_none_iff.mp hnext
      rw [Trail.run_cons_of_notFound hnone, hnone]
      rfl
    | some next =>
      rw [Trail.run_cons_of_anchor? hnext, List.getLast?_cons]
      exact ih next _ hrest

/-- Steps are refused only because there are none, or because of a count of zero or a pattern that
cannot be read in one of them.  What is reported is the first fault in the order of the steps, in
every document alike.  Steps that are not refused lead to what checking and taking them one by one
from the start of the document leads to. -/
theorem resolveAll_eq_foldSteps (d : Document) (specs : List StepSpec) :
    ((∃ e, d.resolveAll specs = .error e) ↔
      specs = [] ∨ ∃ spec ∈ specs, spec.count = 0 ∨
        ∃ fault, Pattern.readAnchored false spec.pattern = .error fault) ∧
    (∀ e, d.resolveAll specs = .error e ↔ Trail.fault? {} specs = some e) ∧
    (∀ d' : Document, ∀ e, d.resolveAll specs = .error e ↔ d'.resolveAll specs = .error e) ∧
    ((∀ e, d.resolveAll specs ≠ .error e) →
      ∃ t, d.resolveAll specs = .ok t ∧ d.foldSteps .seed .notFound specs = .ok t) := by
  have hfault (d : Document) (e : Error) :
      d.resolveAll specs = .error e ↔ Trail.fault? {} specs = some e := by
    unfold resolveAll
    rcases Trail.ofSpecs_cases {} specs with ⟨e', he, hf⟩ | ⟨t, ht, _, hf⟩
    · rw [he, hf, Option.some.injEq]
      exact ⟨Except.error.inj, congrArg Except.error⟩
    · rw [ht, hf]
      exact iff_of_false nofun nofun
  refine ⟨?_, hfault d, fun d' e => (hfault d e).trans (hfault d' e).symm, fun hok => ?_⟩
  · rw [← Trail.isSome_fault?_iff {} specs, Option.isSome_iff_exists]
    exact exists_congr (hfault d)
  · rcases Trail.ofSpecs_cases {} specs with ⟨e, _, hf⟩ | ⟨t, ht, hsteps, _⟩
    · exact absurd ((hfault d e).mpr hf) (hok e)
    · refine ⟨t.resolve d, by rw [resolveAll, ht]; rfl, ?_⟩
      rw [foldSteps_eq_getLast? d .seed .notFound hsteps, ← Trail.follow_eq_getLast?]
      rfl

-- the second step counts to zero, but in a document without words one by one it is not reached
example :
    let specs : List StepSpec := [⟨1, .after, "Total", .word⟩, ⟨0, .after, ".+", .word⟩]
    ((⟨[]⟩ : Document).resolveAll specs).isOk = false ∧
      ((⟨[]⟩ : Document).foldSteps .seed .notFound specs).isOk = true := by
  decide +kernel

end Document

end LayoutTrail
