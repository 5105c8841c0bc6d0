import LayoutTrail.Proofs.Counting

/-!
# The order of matches

What a step finds at its counts stands in one list, which does not depend on the count: a count is a
place in it.  The targets of the list end one after the other, and under `below` each ends on a line
of its own.
-/

namespace LayoutTrail

theorem Cursor.lt_line_of_lt {c d : Cursor} (h : c < d) (hkey : c.lineKey ≠ d.lineKey) :
    c.page < d.page ∨ c.page = d.page ∧ c.line < d.line := by
  rw [lt_iff] at h
  rw [Ne, lineKey_eq_iff] at hkey
  omega

namespace Target

/-- Both are found, and the first ends before the second does. -/
def EndsBefore (s t : Target) : Prop :=
  ∃ c e, s.cursor? = some c ∧ t.cursor? = some e ∧ c < e

/-- Both are found, the first on an earlier line. -/
def OnEarlierLine (s t : Target) : Prop :=
  ∃ c e, s.cursor? = some c ∧ t.cursor? = some e ∧
    (c.page < e.page ∨ c.page = e.page ∧ c.line < e.line)

theorem EndsBefore.isFound_left {s t : Target} (h : s.EndsBefore t) : s.isFound := by
  obtain ⟨c, _, hc, _⟩ := h
  exact isFound_of_cursor? hc

/-- If a place of a list is filled, so is every place before it, and what holds from each entry to
the later ones holds between the two. -/
theorem related_of_isFound {R : Target → Target → Prop} {ts : List Target} (hts : ts.Pairwise R)
    {i j : Nat} (hij : i < j) (h : (ts[j]?.getD notFound).isFound) :
    R (ts[i]?.getD notFound) (ts[j]?.getD notFound) := by
  by_cases hj : j < ts.length
  · rw [List.getElem?_eq_getElem hj, List.getElem?_eq_getElem (Nat.lt_trans hij hj)]
    exact List.pairwise_iff_getElem.mp hts i j _ hj hij
  · rw [List.getElem?_eq_none (Nat.le_of_not_lt hj)] at h
    exact absurd h Bool.false_ne_true

end Target

open Target (EndsBefore OnEarlierLine)

namespace Step

variable {step : Step} {d : Document} {a : Anchor} {x y : Candidate}

/-- A step with another count is what is made of its specification with that count. -/
theorem ofSpec_withCount {options : Options} {spec : StepSpec} (h : ofSpec options spec = .ok step)
    (n : UInt32) (hn : 0 < n.toNat) :
    ofSpec options { spec with count := n } = .ok (step.withCount n.toNat hn) := by
  unfold ofSpec at h ⊢
  rw [dif_pos hn]
  split at h
  · cases hread : Pattern.readAnchored options.ignoreCase spec.pattern with
    | ok pattern =>
      simp only [hread, Except.ok.injEq] at h
      subst h
      rfl
    | error fault =>
      simp only [hread] at h
      cases h
  · cases h

theorem mem_candidates_of_mem_qualifying (h : x ∈ step.qualifying d a) :
    x ∈ d.candidates step.unit a := by
  rw [d.candidates_eq_offered]
  exact (List.mem_filter.mp h).1

theorem pairwise_qualifying (step : Step) (d : Document) (a : Anchor) :
    (step.qualifying d a).Pairwise (·.cursor < ·.cursor) :=
  (d.pairwise_offered step.unit (d.pairwise_remaining a)).filter _

theorem lineKey_ne_of_below (hm : step.method = .below) (hx : x ∈ step.qualifying d a)
    (hy : y ∈ step.qualifying d a) (hlt : x.cursor < y.cursor) :
    x.cursor.lineKey ≠ y.cursor.lineKey := by
  obtain ⟨hmem, hqx⟩ := List.mem_filter.mp hx
  have hqy := (List.mem_filter.mp hy).2
  simp only [qualifies, hm, Bool.and_eq_true, decide_eq_true_eq] at hqx hqy
  intro hkey
  exact hqy.2.2 x hmem hlt hkey ⟨hqx.1, hqx.2.1⟩

/-- What the step finds at count one, two and so on. -/
def targets (step : Step) (d : Document) (a : Anchor) : List Target :=
  if a.consumes && (d.wordAt? a.cursor).isNone then []
  else (step.qualifying d a).map Candidate.target

/-- The count of a step decides only which place of the list is read. -/
theorem resolve_withCount_eq (step : Step) (d : Document) (a : Anchor) {n : Nat} (hn : 0 < n) :
    (step.withCount n hn).resolve d a = (step.targets d a)[n - 1]?.getD .notFound := by
  have hcount : (step.withCount n hn).count = n := rfl
  have hsame : (step.withCount n hn).qualifying d a = step.qualifying d a := rfl
  rw [resolve, choose_candidates, hcount, hsame, targets]
  by_cases hout : a.consumes && (d.wordAt? a.cursor).isNone
  · rw [if_pos hout, if_pos hout]
    rfl
  · rw [if_neg hout, if_neg hout, List.getElem?_map]
    cases (step.qualifying d a)[n - 1]? <;> rfl

theorem isFound_of_mem_targets {t : Target} (h : t ∈ step.targets d a) : t.isFound := by
  rw [targets] at h
  split at h
  · exact absurd h List.not_mem_nil
  · obtain ⟨x, _, rfl⟩ := List.mem_map.mp h
    obtain ⟨c, hc, _⟩ := x.exists_cursor?_target
    exact Target.isFound_of_cursor? hc

theorem pairwise_targets {R : Target → Target → Prop}
    (h : ∀ x ∈ step.qualifying d a, ∀ y ∈ step.qualifying d a, x.cursor < y.cursor →
      R x.target y.target) : (step.targets d a).Pairwise R := by
  rw [targets]
  split
  · exact .nil
  · rw [List.pairwise_map]
    exact (step.pairwise_qualifying d a).imp_of_mem fun {x y} hx hy hlt => h x hx y hy hlt

theorem pairwise_targets_endsBefore (step : Step) (d : Document) (a : Anchor) :
    (step.targets d a).Pairwise EndsBefore := by
  apply pairwise_targets
  intro x hx y hy hlt
  have hxc := mem_candidates_of_mem_qualifying hx
  have hyc := mem_candidates_of_mem_qualifying hy
  obtain ⟨c, hc, _⟩ := x.exists_cursor?_target
  obtain ⟨e, he, _⟩ := y.exists_cursor?_target
  -- a phrase ends behind its candidate; the next candidate is behind that end too
  have hcy : c < y.cursor := (Document.lt_cursor_iff hxc hyc hc).mpr hlt
  have hye : y.cursor ≤ e :=
    (Candidate.le_of_cursor?_target (d.standsAfter_of_mem_candidates hyc) he).2
  exact ⟨c, e, hc, he, Cursor.lt_of_lt_of_le hcy hye⟩

theorem pairwise_targets_onEarlierLine (hm : step.method = .below) (d : Document) (a : Anchor) :
    (step.targets d a).Pairwise OnEarlierLine := by
  apply pairwise_targets
  intro x hx y hy hlt
  obtain ⟨c, hc, hcx⟩ := x.exists_cursor?_target
  obtain ⟨e, he, hey⟩ := y.exists_cursor?_target
  refine ⟨c, e, hc, he, ?_⟩
  have hline := Cursor.lt_line_of_lt hlt (lineKey_ne_of_below hm hx hy hlt)
  rw [Cursor.lineKey_eq_iff] at hcx hey
  omega

/-- Larger counts find later matches.  If a count finds something, every smaller one does, and its
match ends strictly before, under `below` even on an earlier line; a count that finds nothing leaves
nothing for larger ones.  So there is one list of matches, strictly ordered, in which every count is
a place. -/
theorem counts_in_order (step : Step) (d : Document) (a : Anchor) :
    (∀ k m (hk : 0 < k) (hm : 0 < m), k < m → ((step.withCount m hm).resolve d a).isFound →
      EndsBefore ((step.withCount k hk).resolve d a) ((step.withCount m hm).resolve d a) ∧
      (step.method = .below → OnEarlierLine ((step.withCount k hk).resolve d a)
        ((step.withCount m hm).resolve d a))) ∧
    (∀ k m (hk : 0 < k) (hm : 0 < m), k < m → (step.withCount k hk).resolve d a = .notFound →
      (step.withCount m hm).resolve d a = .notFound) ∧
    ∃ ts : List Target, (∀ t ∈ ts, t.isFound) ∧ ts.Pairwise EndsBefore ∧
      (step.method = .below → ts.Pairwise OnEarlierLine) ∧
      ∀ n (hn : 0 < n), (step.withCount n hn).resolve d a = ts[n - 1]?.getD .notFound := by
  have hends := step.pairwise_targets_endsBefore d a
  have hlines (hbelow : step.method = .below) := pairwise_targets_onEarlierLine hbelow d a
  refine ⟨?_, ?_, step.targets d a, fun t ht => isFound_of_mem_targets ht, hends, hlines,
    fun n hn => step.resolve_withCount_eq d a hn⟩
  · intro k m hk hm hkm hfound
    have hplace : k - 1 < m - 1 := by omega
    rw [step.resolve_withCount_eq d a hm] at hfound
    rw [step.resolve_withCount_eq d a hk, step.resolve_withCount_eq d a hm]
    exact ⟨Target.related_of_isFound hends hplace hfound,
      fun hbelow => Target.related_of_isFound (hlines hbelow) hplace hfound⟩
  · intro k m hk hm hkm hnone
    have hplace : k - 1 < m - 1 := by omega
    rw [step.resolve_withCount_eq d a, Target.eq_notFound_iff, Bool.eq_false_iff] at hnone ⊢
    -- a match at the larger count would come after one at the smaller
    intro hfound
    exact hnone (Target.related_of_isFound hends hplace hfound).isFound_left

end Step

namespace Trail

/-- Below the start of a page with two totals the second count is on the second line, although both
words of the first line match and overlap; there is nothing for a third. -/
theorem counts_in_order_statement :
    ∃ first second third, Step.ofSpec {} ⟨1, .below, ".+", .word⟩ = .ok first ∧
      Step.ofSpec {} ⟨2, .below, ".+", .word⟩ = .ok second ∧
      Step.ofSpec {} ⟨3, .below, ".+", .word⟩ = .ok third ∧
      (second.resolve statement .seed).isFound ∧
      EndsBefore (first.resolve statement .seed) (second.resolve statement .seed) ∧
      OnEarlierLine (first.resolve statement .seed) (second.resolve statement .seed) ∧
      third.resolve statement .seed = .notFound := by
  obtain ⟨step, hstep, hfound⟩ := exists_ok_of_map_toOption
    (show (Step.ofSpec {} ⟨1, .below, ".+", .word⟩).toOption.map (fun s =>
      (s.method, ((s.withCount 2 Nat.two_pos).resolve statement .seed).isFound,
        ((s.withCount 3 (Nat.succ_pos 2)).resolve statement .seed).isFound)) =
      some (.below, true, false) by decide +kernel)
  obtain ⟨hm, hfound⟩ := Prod.mk.inj hfound
  obtain ⟨hsecond, hthird⟩ := Prod.mk.inj hfound
  obtain ⟨hpairs, _⟩ := Step.counts_in_order step statement .seed
  obtain ⟨hends, hline⟩ := hpairs 1 2 Nat.one_pos Nat.two_pos (Nat.lt_succ_self 1) hsecond
  refine ⟨step.withCount 1 Nat.one_pos, step.withCount 2 Nat.two_pos,
    step.withCount 3 (Nat.succ_pos 2), Step.ofSpec_withCount hstep 1 Nat.one_pos,
    Step.ofSpec_withCount hstep 2 Nat.two_pos, Step.ofSpec_withCount hstep 3 (Nat.succ_pos 2),
    hsecond, hends, hline hm, ?_⟩
  exact Target.eq_notFound_iff.mpr hthird

end Trail

end LayoutTrail
