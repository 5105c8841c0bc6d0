import LayoutTrail.Proofs.Anchoring

/-!
# How much of a document is looked at

A trail looks at no phrase before its anchor, and if it finds something, at none that comes later.
So two documents that have the same phrases there cannot be told apart.
-/

namespace LayoutTrail

/-- Two documents have the same phrases at the positions of `S`. -/
def Document.AgreeOn (S : Cursor → Prop) (d d' : Document) : Prop :=
  ∀ c, S c → d.phraseAt? c = d'.phraseAt? c

namespace Document

variable {S : Cursor → Prop} {d d' : Document} {a : Anchor} {b c : Cursor} {unit : TextUnit}
  {last : Option (Nat × Nat × Nat)} {cs es : List Cursor} {x : Candidate}

theorem AgreeOn.mono {R : Cursor → Prop} (h : AgreeOn S d d') (hR : ∀ c, R c → S c) :
    AgreeOn R d d' := fun c hc => h c (hR c hc)

theorem AgreeOn.wordAt?_eq (h : AgreeOn S d d') (hc : S c) : d.wordAt? c = d'.wordAt? c := by
  rw [wordAt?, wordAt?, h c hc]

theorem AgreeOn.filter_remaining_eq [DecidablePred S] (h : AgreeOn S d d') (a : Anchor) :
    (a.remaining d).filter S = (a.remaining d').filter S := by
  refine Cursor.eq_of_pairwise_lt ((d.pairwise_remaining a).filter _)
    ((d'.pairwise_remaining a).filter _) fun c => ?_
  simp only [List.mem_filter, decide_eq_true_eq, mem_remaining]
  refine and_congr_left fun hc => ?_
  rw [h.wordAt?_eq hc]

theorem candidatesAt_congr (h : ∀ c ∈ cs, d.phraseAt? c = d'.phraseAt? c) :
    d.candidatesAt unit last cs = d'.candidatesAt unit last cs := by
  induction cs generalizing last with
  | nil => rfl
  | cons c cs ih =>
    obtain ⟨hc, hcs⟩ := List.forall_mem_cons.mp h
    simp only [candidatesAt, hc, ih hcs]

/-- One position gives at most the candidate that stands there, and changes the phrase that the walk
remembers. -/
theorem exists_candidatesAt_cons (d : Document) (unit : TextUnit)
    (last : Option (Nat × Nat × Nat)) (c : Cursor) : ∃ (made : List Candidate) (last' : _),
      (∀ x ∈ made, x.cursor = c) ∧
        ∀ cs, d.candidatesAt unit last (c :: cs) = made ++ d.candidatesAt unit last' cs := by
  cases hp : d.phraseAt? c with
  | none =>
    refine ⟨[], last, by simp, fun cs => ?_⟩
    simp only [candidatesAt, hp, List.nil_append]
  | some p =>
    cases unit with
    | word =>
      cases hw : p.words[c.word]? with
      | none =>
        refine ⟨[], last, by simp, fun cs => ?_⟩
        simp only [candidatesAt, hp, hw, List.nil_append]
      | some w =>
        refine ⟨[.word c w], last, by simp [Candidate.cursor], fun cs => ?_⟩
        simp only [candidatesAt, hp, hw, List.singleton_append]
    | phrase =>
      by_cases hl : last = some c.phraseKey
      · refine ⟨[], last, by simp, fun cs => ?_⟩
        simp only [candidatesAt, hp, if_pos hl, List.nil_append]
      · refine ⟨[.phrase c p], some c.phraseKey, by simp [Candidate.cursor], fun cs => ?_⟩
        simp only [candidatesAt, hp, if_neg hl, List.singleton_append]

theorem cursor_mem_of_mem_candidatesAt (h : x ∈ d.candidatesAt unit last cs) : x.cursor ∈ cs := by
  induction cs generalizing last with
  | nil => exact absurd h List.not_mem_nil
  | cons c cs ih =>
    obtain ⟨made, last', hmade, hcons⟩ := d.exists_candidatesAt_cons unit last c
    rw [hcons, List.mem_append] at h
    rcases h with hx | hx
    · exact hmade x hx ▸ List.mem_cons_self
    · exact List.mem_cons_of_mem c (ih hx)

/-- At more positions the walk goes on with the phrase that it remembers. -/
theorem exists_candidatesAt_append (d : Document) (unit : TextUnit)
    (last : Option (Nat × Nat × Nat)) (cs es : List Cursor) : ∃ last',
      d.candidatesAt unit last (cs ++ es) =
        d.candidatesAt unit last cs ++ d.candidatesAt unit last' es := by
  induction cs generalizing last with
  | nil => exact ⟨last, rfl⟩
  | cons c cs ih =>
    obtain ⟨made, next, _, hcons⟩ := d.exists_candidatesAt_cons unit last c
    obtain ⟨last', happend⟩ := ih next
    refine ⟨last', ?_⟩
    rw [List.cons_append, hcons, hcons, happend, List.append_assoc]

/-- In documents that agree up to a position, the candidates up to it are the same and come first. -/
theorem AgreeOn.exists_candidates_eq_append (h : AgreeOn (· ≤ b) d d') (unit : TextUnit)
    (a : Anchor) : ∃ xs ys ys', d.candidates unit a = xs ++ ys ∧ d'.candidates unit a = xs ++ ys' ∧
      ∀ y ∈ ys, b < y.cursor := by
  have hsplit (d : Document) :=
    Cursor.eq_filter_append_filter (d.pairwise_remaining a) b
  let cs := (a.remaining d).filter (· ≤ b)
  let es := (a.remaining d).filter (b < ·)
  let es' := (a.remaining d').filter (b < ·)
  obtain ⟨last, hd⟩ := d.exists_candidatesAt_append unit none cs es
  obtain ⟨last', hd'⟩ := d'.exists_candidatesAt_append unit none cs es'
  have hsame : d.candidatesAt unit none cs = d'.candidatesAt unit none cs := by
    refine candidatesAt_congr fun c hc => h c ?_
    exact decide_eq_true_eq.mp (List.mem_filter.mp hc).2
  refine ⟨d.candidatesAt unit none cs, d.candidatesAt unit last es, d'.candidatesAt unit last' es',
    ?_, ?_, fun y hy => ?_⟩
  · rw [candidates_eq_candidatesAt, hsplit d]
    exact hd
  · rw [candidates_eq_candidatesAt, hsplit d', ← h.filter_remaining_eq a, hsame]
    exact hd'
  · have hc := cursor_mem_of_mem_candidatesAt hy
    exact decide_eq_true_eq.mp (List.mem_filter.mp hc).2

/-- In documents that agree from an anchor on, the candidates are the same. -/
theorem AgreeOn.candidates_eq (h : AgreeOn (a.cursor ≤ ·) d d') (unit : TextUnit) :
    d.candidates unit a = d'.candidates unit a := by
  have hle (d : Document) : ∀ c ∈ a.remaining d, a.cursor ≤ c :=
    fun c hc => (mem_remaining.mp hc).2.1
  have hsame : a.remaining d = a.remaining d' := by
    have hfilter := h.filter_remaining_eq a
    rwa [List.filter_eq_self.mpr (by simpa using hle d),
      List.filter_eq_self.mpr (by simpa using hle d')] at hfilter
  rw [candidates_eq_candidatesAt, candidates_eq_candidatesAt, ← hsame]
  exact candidatesAt_congr fun c hc => h c (hle d c hc)

end Document

namespace Step

variable {d d' : Document} {a : Anchor} {b c : Cursor} {step : Step} {x : Candidate}

/-- Among more candidates the search goes on with what is left of its count and the line that it
remembers. -/
theorem exists_choose_append (step : Step) (reference : Span) (n : Nat) (line : Option (Nat × Nat))
    (xs ys : List Candidate) : ∃ n' line',
      step.choose reference n line (xs ++ ys) =
        (step.choose reference n line xs).or (step.choose reference n' line' ys) := by
  induction xs generalizing n line with
  | nil => exact ⟨n, line, rfl⟩
  | cons x xs ih =>
    rw [List.cons_append]
    rcases step.choose_cons_cases reference n line x with hend | ⟨n', line', hon⟩
    · exact ⟨n, line, by rw [hend, hend, Option.some_or]⟩
    · rw [hon, hon]
      exact ih n' line'

/-- What a step finds it finds in every document that agrees up to there. -/
theorem resolve_eq_of_agree_upTo (h : Document.AgreeOn (· ≤ b) d d')
    (hc : (step.resolve d a).cursor? = some c) (hcb : c ≤ b) :
    step.resolve d' a = step.resolve d a := by
  rcases step.resolve_eq_notFound_or d a with hnone | ⟨hin, x, hx, he⟩
  · rw [hnone] at hc
    cases hc
  · have hs := d.standsAfter_of_mem_candidates (mem_of_choose hx)
    have hxc := (Candidate.le_of_cursor?_target hs (he ▸ hc)).2
    have hxb := Cursor.le_trans hxc hcb
    obtain ⟨xs, ys, ys', hd, hd', hys⟩ := h.exists_candidates_eq_append step.unit a
    -- the candidate is not one of those after `b`, so the search ends before them
    have hfirst : step.choose a.span step.count none xs = some x := by
      obtain ⟨n, line, happend⟩ := step.exists_choose_append a.span step.count none xs ys
      rw [hd, happend, Option.or_eq_some_iff] at hx
      rcases hx with hx | ⟨_, hx⟩
      · exact hx
      · have hlt := hys x (mem_of_choose hx)
        exact absurd (Cursor.lt_of_lt_of_le hlt hxb) (Cursor.lt_irrefl b)
    have hchoose : step.choose a.span step.count none (d'.candidates step.unit a) = some x := by
      obtain ⟨n, line, happend⟩ := step.exists_choose_append a.span step.count none xs ys'
      rw [hd', happend, hfirst, Option.some_or]
    rw [he, resolve_eq_target (fun hcons => ?_) hchoose]
    rw [← h.wordAt?_eq (Cursor.le_trans hs.notBefore hxb)]
    exact hin hcons

/-- A step finds the same in documents that agree from its anchor on. -/
theorem resolve_eq_of_agree_from (h : Document.AgreeOn (a.cursor ≤ ·) d d') (step : Step) :
    step.resolve d' a = step.resolve d a := by
  rw [resolve, resolve, h.wordAt?_eq (Cursor.le_refl a.cursor), h.candidates_eq]

end Step

namespace Trail

variable {d d' : Document} {a : Anchor} {b c : Cursor} {steps : List Step}

/-- What steps lead to they lead to in every document that agrees up to there. -/
theorem follow_eq_of_agree_upTo (h : Document.AgreeOn (· ≤ b) d d')
    (hc : (follow d a steps).cursor? = some c) (hcb : c ≤ b) :
    follow d' a steps = follow d a steps := by
  induction steps generalizing a with
  | nil => rfl
  | cons step rest ih =>
    cases hnext : (step.resolve d a).anchor? with
    | none =>
      rw [follow_cons_of_notFound (Target.anchor?_eq_none_iff.mp hnext)] at hc
      cases hc
    | some next =>
      by_cases hrest : rest = []
      · rw [hrest, follow_singleton] at hc ⊢
        rw [follow_singleton, Step.resolve_eq_of_agree_upTo h hc hcb]
      · rw [follow_cons_of_anchor? hnext hrest] at hc ⊢
        -- the first step finds something that the later ones do not go behind
        have hle : next.cursor ≤ b := Cursor.le_trans (le_of_cursor?_follow hc) hcb
        have hsame := Step.resolve_eq_of_agree_upTo h (Target.cursor_of_anchor? hnext) hle
        rw [follow_cons_of_anchor? (hsame ▸ hnext) hrest]
        exact ih hc

/-- If single steps from related anchors find what corresponds by `f`, and leave related anchors, then
so do steps taken in order. -/
theorem follow_of_simulation {f : Target → Target} {R : Anchor → Anchor → Prop} {a' : Anchor}
    (hnone : f .notFound = .notFound)
    (hstep : ∀ a a', R a a' → ∀ step : Step, step.resolve d' a' = f (step.resolve d a))
    (hnext : ∀ a a', R a a' → ∀ (step : Step) (b : Anchor), (step.resolve d a).anchor? = some b →
      ∃ b', (f (step.resolve d a)).anchor? = some b' ∧ R b b')
    (h : R a a') (steps : List Step) : follow d' a' steps = f (follow d a steps) := by
  induction steps generalizing a a' with
  | nil => exact hnone.symm
  | cons step rest ih =>
    have hsame := hstep a a' h step
    cases hb : (step.resolve d a).anchor? with
    | none =>
      have hstop := Target.anchor?_eq_none_iff.mp hb
      rw [follow_cons_of_notFound hstop, hnone]
      exact follow_cons_of_notFound (by rw [hsame, hstop, hnone])
    | some b =>
      obtain ⟨b', hb', hR⟩ := hnext a a' h step b hb
      by_cases hrest : rest = []
      · rw [hrest, follow_singleton, follow_singleton, hsame]
      · rw [follow_cons_of_anchor? hb hrest, follow_cons_of_anchor? (hsame ▸ hb') hrest]
        exact ih hR

/-- Steps lead to the same in documents that agree from their anchor on. -/
theorem follow_eq_of_agree_from (h : Document.AgreeOn (a.cursor ≤ ·) d d') (steps : List Step) :
    follow d' a steps = follow d a steps := by
  let R (a a' : Anchor) : Prop := a' = a ∧ Document.AgreeOn (a.cursor ≤ ·) d d'
  refine follow_of_simulation (f := id) (R := R) rfl ?_ ?_ ⟨rfl, h⟩ steps
  · rintro _ a ⟨rfl, h⟩ step
    exact Step.resolve_eq_of_agree_from h step
  · rintro _ a ⟨rfl, h⟩ step b hb
    have hreach := step.resolve_reached d a (Target.cursor_of_anchor? hb)
    exact ⟨b, hb, rfl, h.mono fun c hc => Cursor.le_trans hreach.notBefore hc⟩

end Trail

end LayoutTrail
