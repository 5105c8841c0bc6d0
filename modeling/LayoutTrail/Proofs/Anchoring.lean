import LayoutTrail.Proofs.Selection
import LayoutTrail.Search.Trail

/-!
# What a run of steps keeps true

A found target names a word of the document, says what the document says there, and does not lie
before the anchor it was found from, nor at it if the anchor has used up its word.  One lemma says
this of one step; along a run the anchors after the first are therefore inside the document, however
stale the first one is.
-/

namespace LayoutTrail

namespace Phrase

variable {p : Phrase} {i : Nat}

theorem lastIndex?_eq (h : i < p.words.length) : p.lastIndex? = some (p.words.length - 1) := by
  have hne : p.isEmpty = false := by
    rw [isEmpty, List.isEmpty_eq_false_iff]
    exact List.ne_nil_of_length_pos (by omega)
  rw [lastIndex?, hne]
  rfl

theorem lt_length_of_lastIndex? (h : p.lastIndex? = some i) : i < p.words.length := by
  by_cases hpos : 0 < p.words.length
  · rw [lastIndex?_eq hpos] at h
    have := Option.some.inj h
    omega
  · have hnil : p.words = [] := List.eq_nil_of_length_eq_zero (by omega)
    simp [lastIndex?, isEmpty, hnil] at h

theorem split?_zero (p : Phrase) : p.split? 0 = none := rfl

/-- A phrase splits before each of its words but the first. -/
theorem split?_eq (h0 : 0 < i) (h : i < p.words.length) :
    p.split? i = some
      { first := ⟨p.quad.withRight (p.words.get ⟨i - 1, by omega⟩).quad.right, p.textBefore i⟩
        second := ⟨p.quad.withLeft p.words[i].quad.left, p.textFrom i⟩ } := by
  obtain ⟨k, rfl⟩ : ∃ k, i = k + 1 := ⟨i - 1, by omega⟩
  have hk : k < p.words.length := by omega
  simp only [split?, List.getElem?_eq_getElem hk, List.getElem?_eq_getElem h, Nat.add_sub_cancel, List.get_eq_getElem]

end Phrase

/-- A candidate that stands in the document where an anchor leaves it: a word at its position, or a
phrase that has a word there. -/
structure Candidate.StandsAfter (d : Document) (a : Anchor) (x : Candidate) : Prop where
  content : match x with
    | .word c w => d.wordAt? c = some w
    | .phrase c p => d.phraseAt? c = some p ∧ c.word < p.words.length
  notBefore : a.cursor ≤ x.cursor
  after : a.consumes → a.cursor < x.cursor

theorem Document.standsAfter_of_mem_candidates {d : Document} {a : Anchor} {unit : TextUnit}
    {x : Candidate} (h : x ∈ d.candidates unit a) : x.StandsAfter d a := by
  rw [candidates_eq_offered] at h
  obtain ⟨hword, hle, hne⟩ := mem_remaining.mp (Candidate.cursor_of_mem_offered h)
  refine ⟨?_, hle, fun hc => Cursor.lt_iff_le_and_ne.mpr ⟨hle, hne hc⟩⟩
  cases unit with
  | word =>
    obtain ⟨c, w, rfl, _, hw⟩ := mem_offered_word.mp h
    exact hw
  | phrase =>
    obtain ⟨c, p, rfl, _, hp, _⟩ := mem_offered_phrase.mp h
    obtain ⟨q, hq, hlt⟩ := Document.isSome_wordAt?_iff.mp hword
    obtain rfl : p = q := Option.some.inj (hp.symm.trans hq)
    exact ⟨hp, hlt⟩

theorem Document.exists_phrase_of_mem_candidates {d : Document} {a : Anchor} {x : Candidate}
    (h : x ∈ d.candidates .phrase a) : ∃ c p, x = .phrase c p ∧ d.phraseAt? c = some p ∧
      c.word < p.words.length ∧ c ∈ a.remaining d ∧
      ∀ e ∈ a.remaining d, e < c → e.phraseKey ≠ c.phraseKey := by
  have hs := d.standsAfter_of_mem_candidates h
  rw [candidates_eq_offered] at h
  obtain ⟨c, p, rfl, hc, hp, hfirst⟩ := mem_offered_phrase.mp h
  exact ⟨c, p, rfl, hp, hs.content.2, hc, hfirst⟩

/-- A step finds nothing, or what the search chooses among its candidates.  It finds something only
if the anchor has used up no word or one of the document. -/
theorem Step.resolve_eq_notFound_or (step : Step) (d : Document) (a : Anchor) :
    step.resolve d a = .notFound ∨
      (a.consumes → (d.wordAt? a.cursor).isSome) ∧
        ∃ x, step.choose a.span step.count none (d.candidates step.unit a) = some x ∧
          step.resolve d a = x.target := by
  rw [resolve]
  by_cases hout : a.consumes && (d.wordAt? a.cursor).isNone
  · exact Or.inl (if_pos hout)
  · rw [if_neg hout]
    cases hx : step.choose a.span step.count none (d.candidates step.unit a) with
    | none => exact Or.inl rfl
    | some x =>
      refine Or.inr ⟨fun hc => ?_, x, rfl, rfl⟩
      rwa [hc, Bool.true_and, Bool.not_eq_true, Option.isNone_eq_false_iff] at hout

theorem Step.resolve_eq_target {step : Step} {d : Document} {a : Anchor} {x : Candidate}
    (hin : a.consumes → (d.wordAt? a.cursor).isSome)
    (hx : step.choose a.span step.count none (d.candidates step.unit a) = some x) :
    step.resolve d a = x.target := by
  have hout : ¬ (a.consumes && (d.wordAt? a.cursor).isNone) = true := by
    intro h
    obtain ⟨hc, hnone⟩ := Bool.and_eq_true_iff.mp h
    rw [Option.isNone_iff_eq_none] at hnone
    have hword := hin hc
    rw [hnone] at hword
    cases hword
  rw [resolve, if_neg hout, hx]

theorem Step.exists_of_isFound {step : Step} {d : Document} {a : Anchor}
    (h : (step.resolve d a).isFound) :
    ∃ x, step.choose a.span step.count none (d.candidates step.unit a) = some x ∧
      x ∈ d.candidates step.unit a ∧ step.resolve d a = x.target := by
  rcases step.resolve_eq_notFound_or d a with hnone | ⟨_, x, hx, he⟩
  · rw [hnone] at h
    exact absurd h Bool.false_ne_true
  · exact ⟨x, hx, mem_of_choose hx, he⟩

/-- A step finds nothing, or one of its candidates. -/
theorem Step.resolve_cases (step : Step) (d : Document) (a : Anchor) :
    step.resolve d a = .notFound ∨
      (a.consumes → (d.wordAt? a.cursor).isSome) ∧
        ∃ x ∈ d.candidates step.unit a, step.resolve d a = x.target := by
  rcases step.resolve_eq_notFound_or d a with hnone | ⟨hin, x, hx, he⟩
  · exact Or.inl hnone
  · exact Or.inr ⟨hin, x, mem_of_choose hx, he⟩

namespace Target

/-- A target says what the document says at its position.  For a phrase the right corners are those
of the whole phrase even if only a part of it was left. -/
def AgreesWith (d : Document) : Target → Prop
  | notFound => True
  | word m => d.wordAt? m.cursor = some ⟨m.value, m.quad⟩
  | phrase m => ∃ p, d.phraseAt? m.cursor = some p ∧ p.lastIndex? = some m.cursor.word ∧
      m.quad.topRight = p.quad.topRight ∧ m.quad.bottomRight = p.quad.bottomRight ∧
      (m.segments = none → m.value = p.text ∧ m.quad = p.quad)

/-- A target whose last word is at `c`, found from the anchor `a`. -/
structure Reached (d : Document) (a : Anchor) (t : Target) (c : Cursor) : Prop where
  inDocument : (d.wordAt? c).isSome
  agrees : t.AgreesWith d
  notBefore : a.cursor ≤ c
  after : a.consumes → a.cursor < c

theorem anchor?_eq_none_iff {t : Target} : t.anchor? = none ↔ t = notFound := by
  cases t <;> simp [anchor?]

theorem eq_notFound_iff {t : Target} : t = notFound ↔ t.isFound = false := by
  cases t <;> simp [isFound]

theorem exists_cursor?_of_isFound {t : Target} (h : t.isFound) : ∃ c, t.cursor? = some c := by
  cases t with
  | notFound => exact absurd h Bool.false_ne_true
  | word m | phrase m => exact ⟨m.cursor, rfl⟩

theorem exists_anchor?_of_isFound {t : Target} (h : t.isFound) : ∃ b, t.anchor? = some b := by
  cases t with
  | notFound => exact absurd h Bool.false_ne_true
  | word m | phrase m => exact ⟨_, rfl⟩

theorem isFound_of_cursor? {t : Target} {c : Cursor} (h : t.cursor? = some c) : t.isFound := by
  cases t with
  | notFound => exact absurd h (Option.some_ne_none c).symm
  | word m | phrase m => rfl

theorem value_of_anchor? {t : Target} {b : Anchor} (h : t.anchor? = some b) :
    b.value = t.value := by
  cases t with
  | notFound => simp [anchor?] at h
  | word m | phrase m =>
    obtain rfl := Option.some.inj h
    rfl

theorem cursor_of_anchor? {t : Target} {b : Anchor} (h : t.anchor? = some b) :
    t.cursor? = some b.cursor := by
  cases t with
  | notFound => simp [anchor?] at h
  | word m | phrase m =>
    obtain rfl := Option.some.inj h
    rfl

end Target

theorem Candidate.exists_cursor?_target (x : Candidate) :
    ∃ c, x.target.cursor? = some c ∧ c.lineKey = x.cursor.lineKey := by
  cases x with
  | word c w => exact ⟨c, rfl, rfl⟩
  | phrase c p =>
    refine ⟨c.withWord (p.lastIndex?.getD c.word), ?_, rfl⟩
    rw [target]
    split <;> rfl

/-- The target of a phrase ends at the last word of the phrase. -/
theorem Candidate.cursor?_target_phrase (c : Cursor) {p : Phrase} (h : c.word < p.words.length) :
    (phrase c p).target.cursor? = some (c.withWord (p.words.length - 1)) := by
  simp only [target, Phrase.lastIndex?_eq h, Option.getD_some]
  cases p.split? c.word <;> rfl

theorem Candidate.agreesWith_target {d : Document} {a : Anchor} {x : Candidate}
    (h : x.StandsAfter d a) : x.target.AgreesWith d := by
  cases x with
  | word c w => exact h.content
  | phrase c p =>
    obtain ⟨hp, hlt⟩ := h.content
    have hlast := Phrase.lastIndex?_eq hlt
    simp only [target, hlast, Option.getD_some]
    by_cases h0 : c.word = 0
    · rw [h0, Phrase.split?_zero]
      exact ⟨p, hp, hlast, rfl, rfl, fun _ => ⟨rfl, rfl⟩⟩
    · rw [Phrase.split?_eq (Nat.pos_of_ne_zero h0) hlt]
      exact ⟨p, hp, hlast, rfl, rfl, fun hs => absurd hs (Option.some_ne_none _)⟩

/-- The target of a candidate ends at a word of the document that is not before the candidate. -/
theorem Candidate.le_of_cursor?_target {d : Document} {a : Anchor} {x : Candidate}
    (h : x.StandsAfter d a) {c : Cursor} (hc : x.target.cursor? = some c) :
    (d.wordAt? c).isSome ∧ x.cursor ≤ c := by
  cases x with
  | word e w =>
    obtain rfl : e = c := Option.some.inj hc
    exact ⟨Option.isSome_of_eq_some h.content, Cursor.le_refl e⟩
  | phrase e p =>
    obtain ⟨hp, hlt⟩ := h.content
    rw [cursor?_target_phrase e hlt] at hc
    obtain rfl := Option.some.inj hc
    refine ⟨Document.isSome_wordAt?_iff.mpr ⟨p, hp, ?_⟩, Cursor.le_withWord e (by omega)⟩
    rw [Cursor.word_withWord]
    omega

/-- What one step finds is reached from its anchor. -/
theorem Step.resolve_reached (step : Step) (d : Document) (a : Anchor) {c : Cursor}
    (hc : (step.resolve d a).cursor? = some c) : (step.resolve d a).Reached d a c := by
  rcases step.resolve_cases d a with hnone | ⟨_, x, hx, he⟩
  · rw [hnone] at hc
    exact absurd hc (Option.some_ne_none c).symm
  · rw [he] at hc ⊢
    have hs := d.standsAfter_of_mem_candidates hx
    obtain ⟨hword, hle⟩ := Candidate.le_of_cursor?_target hs hc
    exact ⟨hword, Candidate.agreesWith_target hs, Cursor.le_trans hs.notBefore hle,
      fun hcons => Cursor.lt_of_lt_of_le (hs.after hcons) hle⟩

namespace Trail

variable {d : Document} {a : Anchor}

/-- The anchor that step `i` starts from, given what the steps before it have found. -/
def anchorAt (a : Anchor) (found : List Target) : Nat → Option Anchor
  | 0 => some a
  | i + 1 => found[i]?.bind Target.anchor?

theorem run_cons_of_notFound {step : Step} {steps : List Step}
    (h : step.resolve d a = .notFound) : run d a (step :: steps) = [.notFound] := by
  rw [run, h]
  rfl

theorem run_cons_of_anchor? {step : Step} {steps : List Step} {b : Anchor}
    (h : (step.resolve d a).anchor? = some b) :
    run d a (step :: steps) = step.resolve d a :: run d b steps := by
  simp only [run, h]

theorem run_ne_nil {steps : List Step} (h : steps ≠ []) : run d a steps ≠ [] := by
  obtain ⟨step, rest, rfl⟩ := List.exists_cons_of_ne_nil h
  rw [run]
  split <;> exact List.cons_ne_nil _ _

theorem follow_cons_of_notFound {step : Step} {steps : List Step}
    (h : step.resolve d a = .notFound) : follow d a (step :: steps) = .notFound := by
  unfold follow
  rw [h]
  rfl

theorem follow_singleton (d : Document) (a : Anchor) (step : Step) :
    follow d a [step] = step.resolve d a := by
  cases h : step.resolve d a <;> simp [follow, h, Target.anchor?]

theorem follow_cons_of_anchor? {step : Step} {steps : List Step} {b : Anchor}
    (h : (step.resolve d a).anchor? = some b) (hne : steps ≠ []) :
    follow d a (step :: steps) = follow d b steps := by
  obtain ⟨next, rest, rfl⟩ := List.exists_cons_of_ne_nil hne
  conv => lhs; unfold follow
  simp only [h]

/-- Each target of a run is what its step finds from the anchor that the one before has left. -/
theorem getElem?_run {steps : List Step} {i : Nat} {t : Target} (h : (run d a steps)[i]? = some t) :
    ∃ b step, anchorAt a (run d a steps) i = some b ∧ steps[i]? = some step ∧
      t = step.resolve d b := by
  induction steps generalizing a i with
  | nil => simp [run] at h
  | cons step steps ih =>
    cases hnext : (step.resolve d a).anchor? with
    | none =>
      rw [run_cons_of_notFound (Target.anchor?_eq_none_iff.mp hnext)] at h ⊢
      cases i with
      | zero =>
        exact ⟨a, step, rfl, rfl, by
          rw [Target.anchor?_eq_none_iff.mp hnext]; exact (Option.some.inj h).symm⟩
      | succ i => simp at h
    | some b =>
      rw [run_cons_of_anchor? hnext] at h ⊢
      cases i with
      | zero => exact ⟨a, step, rfl, rfl, (Option.some.inj h).symm⟩
      | succ i =>
        obtain ⟨b', step', hb', hstep', ht⟩ := ih h
        refine ⟨b', step', ?_, hstep', ht⟩
        -- the second step starts from the first target, the later ones from targets of the rest
        cases i with
        | zero => exact hnext.trans hb'
        | succ j => exact hb'

/-- What a trail leads to is the last target of its run. -/
theorem follow_eq_getLast? (steps : List Step) :
    follow d a steps = (run d a steps).getLast?.getD .notFound := by
  induction steps generalizing a with
  | nil => rfl
  | cons step steps ih =>
    cases hnext : (step.resolve d a).anchor? with
    | none =>
      have hnone := Target.anchor?_eq_none_iff.mp hnext
      rw [run_cons_of_notFound hnone, follow_cons_of_notFound hnone]
      rfl
    | some b =>
      rw [run_cons_of_anchor? hnext]
      by_cases hne : steps = []
      · rw [hne, follow_singleton]
        rfl
      · rw [follow_cons_of_anchor? hnext hne, ih,
          List.getLast?_cons_of_ne_nil (run_ne_nil hne)]

/-- The anchor of a step after the first names a word of the document. -/
theorem isSome_wordAt?_of_anchorAt {steps : List Step} {i : Nat} {b : Anchor}
    (h : anchorAt a (run d a steps) (i + 1) = some b) : (d.wordAt? b.cursor).isSome := by
  obtain ⟨s, hs, hb⟩ := Option.bind_eq_some_iff.mp h
  obtain ⟨b', step, _, _, rfl⟩ := getElem?_run hs
  exact (step.resolve_reached d b' (Target.cursor_of_anchor? hb)).inDocument

/-- What a trail leads to names a word of the document. -/
theorem isSome_wordAt?_of_anchor?_follow {steps : List Step} {b : Anchor}
    (h : (follow d a steps).anchor? = some b) : (d.wordAt? b.cursor).isSome := by
  rw [follow_eq_getLast?] at h
  cases hlast : (run d a steps).getLast? with
  | none =>
    rw [hlast] at h
    exact absurd h.symm (Option.some_ne_none b)
  | some t =>
    rw [hlast, Option.getD_some] at h
    obtain ⟨i, hi⟩ := List.mem_iff_getElem?.mp (List.mem_of_getLast? hlast)
    obtain ⟨b', step, _, _, rfl⟩ := getElem?_run hi
    exact (step.resolve_reached d b' (Target.cursor_of_anchor? h)).inDocument

theorem mem_run_cons {step : Step} {steps : List Step} {t : Target} :
    t ∈ run d a (step :: steps) ↔ t = step.resolve d a ∨
      ∃ b, (step.resolve d a).anchor? = some b ∧ t ∈ run d b steps := by
  cases hnext : (step.resolve d a).anchor? with
  | none =>
    have hnone := Target.anchor?_eq_none_iff.mp hnext
    rw [run_cons_of_notFound hnone, List.mem_singleton, hnone]
    simp only [reduceCtorEq, false_and, exists_false, or_false]
  | some b =>
    rw [run_cons_of_anchor? hnext, List.mem_cons]
    simp only [Option.some.injEq, exists_eq_left']

/-- What holds between a target and all that is found from it on holds throughout a run. -/
theorem pairwise_run {R : Target → Target → Prop}
    (h : ∀ a (step : Step) steps b, (step.resolve d a).anchor? = some b →
      ∀ t ∈ run d b steps, R (step.resolve d a) t)
    (a : Anchor) (steps : List Step) : (run d a steps).Pairwise R := by
  induction steps generalizing a with
  | nil => exact .nil
  | cons step steps ih =>
    cases hnext : (step.resolve d a).anchor? with
    | none =>
      rw [run_cons_of_notFound (Target.anchor?_eq_none_iff.mp hnext)]
      exact List.pairwise_singleton _ _
    | some b =>
      rw [run_cons_of_anchor? hnext]
      exact List.pairwise_cons.mpr ⟨h a step steps b hnext, ih b⟩

/-- Nothing that a run finds lies before its anchor. -/
theorem le_of_mem_run {steps : List Step} {t : Target} (ht : t ∈ run d a steps) {c : Cursor}
    (hc : t.cursor? = some c) : a.cursor ≤ c := by
  induction steps generalizing a with
  | nil => exact absurd ht List.not_mem_nil
  | cons step steps ih =>
    rcases mem_run_cons.mp ht with rfl | ⟨b, hb, ht⟩
    · exact (step.resolve_reached d a hc).notBefore
    · have hreach := step.resolve_reached d a (Target.cursor_of_anchor? hb)
      exact Cursor.le_trans hreach.notBefore (ih ht)

/-- What a trail leads to does not lie before its anchor. -/
theorem le_of_cursor?_follow {steps : List Step} {c : Cursor}
    (hc : (follow d a steps).cursor? = some c) : a.cursor ≤ c := by
  rw [follow_eq_getLast?] at hc
  cases hlast : (run d a steps).getLast? with
  | none =>
    rw [hlast] at hc
    exact absurd hc.symm (Option.some_ne_none c)
  | some t =>
    rw [hlast, Option.getD_some] at hc
    exact le_of_mem_run (List.mem_of_getLast? hlast) hc

theorem pairwise_run_le (d : Document) (a : Anchor) (steps : List Step) :
    (run d a steps).Pairwise fun s t =>
      ∀ c e, s.cursor? = some c → t.cursor? = some e → c ≤ e := by
  refine pairwise_run (fun a step steps b hb t ht c e hc he => ?_) a steps
  obtain rfl := Option.some.inj ((Target.cursor_of_anchor? hb).symm.trans hc)
  exact le_of_mem_run ht he

/-- Every target met along a run is reached from the anchor that the target before it has left, the
anchors after the first are inside the document, and the positions never decrease; what the trail
leads to is the last target of the run. -/
theorem run_reached (d : Document) (a : Anchor) (steps : List Step) :
    (∀ i t, (run d a steps)[i]? = some t → ∃ b step,
      anchorAt a (run d a steps) i = some b ∧ steps[i]? = some step ∧ t = step.resolve d b ∧
      (0 < i → (d.wordAt? b.cursor).isSome) ∧
      (t.isFound → ∃ c, t.cursor? = some c ∧ t.Reached d b c)) ∧
    (run d a steps).Pairwise (fun s t =>
      ∀ c e, s.cursor? = some c → t.cursor? = some e → c ≤ e) ∧
    follow d a steps = (run d a steps).getLast?.getD .notFound := by
  refine ⟨fun i t ht => ?_, pairwise_run_le d a steps, follow_eq_getLast? steps⟩
  obtain ⟨b, step, hb, hstep, rfl⟩ := getElem?_run ht
  refine ⟨b, step, hb, hstep, rfl, fun hi => ?_, fun hfound => ?_⟩
  · obtain ⟨k, rfl⟩ : ∃ k, i = k + 1 := ⟨i - 1, by omega⟩
    exact isSome_wordAt?_of_anchorAt hb
  · obtain ⟨c, hc⟩ := Target.exists_cursor?_of_isFound hfound
    exact ⟨c, hc, step.resolve_reached d b hc⟩

end Trail

end LayoutTrail
