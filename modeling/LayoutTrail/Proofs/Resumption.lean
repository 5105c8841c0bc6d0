import LayoutTrail.Proofs.Checking
import LayoutTrail.Proofs.StoredAnchors

/-!
# Stopping and resuming

Steps that follow others lead to the same when they are taken from what the others have found, also
when that was stored as a text in between.
-/

namespace LayoutTrail.Trail

variable {options : Options} {specs specs' : List StepSpec} {steps steps' : List Step}

theorem stepsOf_append (h : stepsOf options specs = .ok steps)
    (h' : stepsOf options specs' = .ok steps') :
    stepsOf options (specs ++ specs') = .ok (steps ++ steps') := by
  induction specs generalizing steps with
  | nil =>
    obtain rfl : [] = steps := Except.ok.inj h
    exact h'
  | cons spec specs ih =>
    obtain ⟨step, rest, hstep, hrest, rfl⟩ := exists_of_stepsOf_cons h
    rw [List.cons_append, stepsOf_cons_of_ok hstep, ih hrest]
    rfl

theorem stepsOf_of_ofSpecs {t : Trail} (h : ofSpecs options specs = .ok t) :
    stepsOf options specs = .ok t.steps := by
  unfold ofSpecs at h
  split at h
  · cases h
  · cases h
  next step rest hsteps =>
    obtain rfl := Except.ok.inj h
    exact hsteps

theorem ofSpecs_of_stepsOf (h : stepsOf options specs = .ok steps) (hne : steps ≠ []) :
    ofSpecs options specs = .ok ⟨steps, hne⟩ := by
  obtain ⟨step, rest, rfl⟩ := List.exists_cons_of_ne_nil hne
  rw [ofSpecs, h]

variable {d : Document} {a : Anchor}

theorem follow_append_of_notFound (hne : steps ≠ []) (h : follow d a steps = .notFound) :
    follow d a (steps ++ steps') = .notFound := by
  -- no steps at all lead to nothing, whatever is to follow, so the last step is set apart
  induction steps generalizing a with
  | nil => exact absurd rfl hne
  | cons step rest ih =>
    rw [List.cons_append]
    cases hnext : (step.resolve d a).anchor? with
    | none => exact follow_cons_of_notFound (Target.anchor?_eq_none_iff.mp hnext)
    | some b =>
      by_cases hrest : rest = []
      · rw [hrest, follow_singleton] at h
        rw [h] at hnext
        exact absurd hnext.symm (Option.some_ne_none b)
      · rw [follow_cons_of_anchor? hnext hrest] at h
        rw [follow_cons_of_anchor? hnext (List.append_ne_nil_of_left_ne_nil hrest _)]
        exact ih hrest h

/-- Steps lead on from what the steps before them have found. -/
theorem follow_append_of_anchor? (hne : steps' ≠ []) {b : Anchor}
    (h : (follow d a steps).anchor? = some b) :
    follow d a (steps ++ steps') = follow d b steps' := by
  induction steps generalizing a with
  | nil => exact absurd h.symm (Option.some_ne_none b)
  | cons step rest ih =>
    rw [List.cons_append]
    cases hnext : (step.resolve d a).anchor? with
    | none =>
      rw [follow_cons_of_notFound (Target.anchor?_eq_none_iff.mp hnext)] at h
      exact absurd h.symm (Option.some_ne_none b)
    | some next =>
      rw [follow_cons_of_anchor? hnext (List.append_ne_nil_of_right_ne_nil rest hne)]
      by_cases hrest : rest = []
      · rw [hrest, follow_singleton, hnext] at h
        obtain rfl := Option.some.inj h
        rw [hrest, List.nil_append]
      · rw [follow_cons_of_anchor? hnext hrest] at h
        exact ih h

/-- Stopping, storing what was found as a text and resuming from that text leads to the same as going
on.  Of the coordinates that are printed it is assumed that they are read back. -/
theorem resume_eq_run_through (hd : d.Addressable) {first second : Trail}
    (hfirst : ofSpecs options specs = .ok first) (hsecond : ofSpecs options specs' = .ok second) :
    ∃ whole, ofSpecs options (specs ++ specs') = .ok whole ∧
      (first.resolveFrom d a = .notFound → whole.resolveFrom d a = .notFound) ∧
      ((first.resolveFrom d a).isFound →
        (∀ q, (first.resolveFrom d a).quad? = some q → ∀ x ∈ q.coordinates, x.isFinite) →
        ReadBack (first.resolveFrom d a).coordinates →
        ∀ layout, ∃ b,
          Anchor.ofText ((first.resolveFrom d a).toJson.toText layout) = .ok b ∧
            second.resolveFrom d b = whole.resolveFrom d a) := by
  have hsteps := stepsOf_append (stepsOf_of_ofSpecs hfirst) (stepsOf_of_ofSpecs hsecond)
  have hne : first.steps ++ second.steps ≠ [] :=
    List.append_ne_nil_of_left_ne_nil first.steps_ne_nil _
  refine ⟨_, ofSpecs_of_stepsOf hsteps hne, ?_, ?_⟩
  · intro hnone
    exact follow_append_of_notFound first.steps_ne_nil hnone
  · intro hfound hfinite hread layout
    obtain ⟨b, hb⟩ := Target.exists_anchor?_of_isFound hfound
    have hfits := Document.fits_of_wordAt? hd (isSome_wordAt?_of_anchor?_follow hb)
    refine ⟨b, Anchor.ofText_toText hb hfinite hread hfits layout, ?_⟩
    exact (follow_append_of_anchor? second.steps_ne_nil hb).symm

/-- A page with the two words of one phrase on it. -/
def letterhead : Document :=
  let box : Quad := .ofEdges 0 0 0.5 0.5
  ⟨[⟨[⟨[⟨"Your Company", box, [⟨"Your", box⟩, ⟨"Company", box⟩]⟩]⟩]⟩]⟩

theorem resume_letterhead :
    letterhead.Addressable ∧ ∃ first second whole,
      ofSpecs {} [⟨1, .after, "Your", .word⟩] = .ok first ∧
      ofSpecs {} [⟨1, .after, ".+", .phrase⟩] = .ok second ∧
      ofSpecs {} [⟨1, .after, "Your", .word⟩, ⟨1, .after, ".+", .phrase⟩] = .ok whole ∧
      (first.resolveFrom letterhead .seed).isFound ∧ (whole.resolveFrom letterhead .seed).isFound ∧
      ∀ layout, ∃ b,
        Anchor.ofText ((first.resolveFrom letterhead .seed).toJson.toText layout) = .ok b ∧
          second.resolveFrom letterhead b = whole.resolveFrom letterhead .seed := by
  have hd : letterhead.Addressable := by
    simp [Document.Addressable, letterhead, UInt64.size]
  let corners : List Float := [0, 0, 0.5, 0, 0.5, 0.5, 0, 0.5]
  obtain ⟨first, hfirst, ht⟩ := exists_ok_of_map_toOption
    (show (ofSpecs {} [⟨1, .after, "Your", .word⟩]).toOption.map (fun t =>
      ((t.resolveFrom letterhead .seed).quad?.map Quad.coordinates,
        (t.resolveFrom letterhead .seed).coordinates)) = some (some corners, corners) by
      decide +kernel)
  obtain ⟨hquad, hcoordinates⟩ := Prod.mk.inj ht
  obtain ⟨second, hsecond, _⟩ := exists_ok_of_map_toOption
    (show (ofSpecs {} [⟨1, .after, ".+", .phrase⟩]).toOption.map (fun _ => ()) = some () by
      decide +kernel)
  obtain ⟨whole, hwhole, hwholeFound⟩ := exists_ok_of_map_toOption
    (show (ofSpecs {} [⟨1, .after, "Your", .word⟩, ⟨1, .after, ".+", .phrase⟩]).toOption.map
      (fun t => (t.resolveFrom letterhead .seed).isFound) = some true by decide +kernel)
  obtain ⟨whole', hwhole', _, hresume⟩ := resume_eq_run_through (a := .seed) hd hfirst hsecond
  obtain rfl : whole' = whole := Except.ok.inj (hwhole'.symm.trans hwhole)
  have hfound : (first.resolveFrom letterhead .seed).isFound := by
    cases hf : first.resolveFrom letterhead .seed with
    | notFound =>
      rw [hf] at hquad
      cases hquad
    | word m | phrase m => rfl
  have hfinite : ∀ x ∈ corners, x.isFinite := by decide +kernel
  have hread : ReadBack corners := by
    have h0 : (Json.Number.float 0).ReadsBack := by
      rw [Json.Number.ReadsBack]
      with_unfolding_all rfl
    have h5 : (Json.Number.float 0.5).ReadsBack := by
      rw [Json.Number.ReadsBack]
      with_unfolding_all rfl
    intro x hx _
    simp only [corners, List.mem_cons, List.not_mem_nil, or_false] at hx
    rcases hx with rfl | rfl | rfl | rfl | rfl | rfl | rfl | rfl <;> assumption
  refine ⟨hd, first, second, whole', hfirst, hsecond, hwhole, hfound, hwholeFound, ?_⟩
  refine hresume hfound (fun q hq => ?_) (hcoordinates ▸ hread)
  rw [hq] at hquad
  rw [Option.some.inj hquad]
  exact hfinite

end LayoutTrail.Trail
