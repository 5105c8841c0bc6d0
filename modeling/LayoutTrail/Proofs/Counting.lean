import LayoutTrail.Proofs.Blocks
import LayoutTrail.Proofs.Growth

/-!
# Counting and chaining

From what a step `after` has found on, the candidates are those that came behind it before, although
a phrase is left at its last word and not where it was met.  Counting on from a match therefore goes
on with the same matches, and a chain of steps with count one meets them one by one.
-/

namespace LayoutTrail

namespace Document

variable {d : Document} {a b : Anchor} {unit : TextUnit} {x : Candidate}

/-- What an anchor that is not before another one, and has used up its word, leaves of what the other
one leaves. -/
theorem remaining_eq_filter (hle : a.cursor ≤ b.cursor) (hb : b.consumes) :
    b.remaining d = (a.remaining d).filter (b.cursor < ·) := by
  rw [Anchor.remaining, Anchor.remaining, List.filter_filter]
  refine List.filter_congr fun c _ => ?_
  rw [Bool.eq_iff_iff]
  simp only [hb, forall_const, Bool.and_eq_true, decide_eq_true_eq, ← Cursor.lt_iff_le_and_ne]
  constructor
  · intro hbc
    refine ⟨hbc, Cursor.le_trans hle (Cursor.le_of_lt hbc), ?_⟩
    rintro - rfl
    exact Cursor.lt_irrefl _ (Cursor.lt_of_le_of_lt hle hbc)
  · exact fun h => h.1

/-- What is made at some positions, of those of its own position that satisfy `p`. -/
theorem filter_filterMap_cursor {make : Cursor → Option Candidate}
    (hmake : ∀ c x, make c = some x → x.cursor = c) (p : Cursor → Bool) (cs : List Cursor) :
    (cs.filterMap make).filter (fun x => p x.cursor) = (cs.filter p).filterMap make := by
  rw [List.filter_filterMap, List.filterMap_filter]
  congr 1
  funext c
  cases hx : make c with
  | none => simp
  | some x =>
    rw [Option.filter_some, hmake c x hx]

/-- No candidate of the unit starts at a position of the phrase of `c` that is behind `c`. -/
def EndsAt (d : Document) (unit : TextUnit) (c : Cursor) : Prop :=
  match unit with
  | .word => True
  | .phrase => ∃ p, d.phraseAt? c = some p ∧ p.lastIndex? = some c.word

theorem phraseKey_ne_of_endsAt {c e : Cursor} (h : d.EndsAt .phrase c) (hlt : c < e)
    (he : (d.wordAt? e).isSome) : c.phraseKey ≠ e.phraseKey := by
  intro hkey
  obtain ⟨p, hp, hlast⟩ := h
  obtain ⟨q, hq, hword⟩ := isSome_wordAt?_iff.mp he
  obtain ⟨hpage, hline, hphrase⟩ := Cursor.phraseKey_eq_iff.mp hkey
  have hsame : d.phraseAt? e = d.phraseAt? c := by
    rw [phraseAt?, phraseAt?, hpage, hline, hphrase]
  obtain rfl : q = p := Option.some.inj (hq.symm.trans (hsame.trans hp))
  have hlt' := Phrase.lt_length_of_lastIndex? hlast
  rw [Phrase.lastIndex?_eq hlt'] at hlast
  have hend := Option.some.inj hlast
  rw [Cursor.lt_iff] at hlt
  omega

/-- From the end of a word or phrase on, the candidates are those that came behind it before. -/
theorem candidates_eq_filter (hle : a.cursor ≤ b.cursor) (hb : b.consumes)
    (hend : d.EndsAt unit b.cursor) :
    d.candidates unit b = (d.candidates unit a).filter (b.cursor < ·.cursor) := by
  rw [candidates_eq_offered, candidates_eq_offered, remaining_eq_filter hle hb]
  cases unit with
  | word =>
    refine (filter_filterMap_cursor (fun c x hx => ?_) (b.cursor < ·) _).symm
    obtain ⟨w, _, rfl⟩ := Option.map_eq_some_iff.mp hx
    rfl
  | phrase =>
    have hmake (c : Cursor) (x : Candidate) (hx : (d.phraseAt? c).map (.phrase c) = some x) :
        x.cursor = c := by
      obtain ⟨p, _, rfl⟩ := Option.map_eq_some_iff.mp hx
      rfl
    rw [offered, offered, filter_filterMap_cursor hmake (b.cursor < ·), List.filter_filter, List.filter_filter]
    congr 1
    refine List.filter_congr fun c hc => ?_
    rw [Bool.eq_iff_iff]
    simp only [Bool.and_eq_true, decide_eq_true_eq, List.mem_filter, and_imp]
    rw [and_comm]
    refine and_congr_right fun hlt => ⟨fun h e he hec hkey => ?_, fun h e he _ => h e he⟩
    by_cases hbe : b.cursor < e
    · exact h e he hbe hec hkey
    · -- the phrase would be that of the anchor, which has no word behind the anchor
      have hbe := Decidable.not_not.mp (mt Cursor.not_le.mp hbe)
      have hbk := Cursor.phraseKey_eq_of_between hbe (Cursor.le_of_lt hlt) hkey
      exact phraseKey_ne_of_endsAt hend hlt (mem_remaining.mp hc).1 (hbk.trans hkey)

variable {y : Candidate} {c : Cursor}

/-- A candidate ends where no other candidate of its unit has begun. -/
theorem endsAt_of_mem_candidates (hx : x ∈ d.candidates unit a)
    (hc : x.target.cursor? = some c) : d.EndsAt unit c := by
  cases unit with
  | word => trivial
  | phrase =>
    obtain ⟨e, p, rfl, hp, hlen, _⟩ := exists_phrase_of_mem_candidates hx
    rw [Candidate.cursor?_target_phrase e hlen] at hc
    obtain rfl := Option.some.inj hc
    exact ⟨p, hp, Phrase.lastIndex?_eq hlen⟩

/-- What comes behind a candidate comes behind its last word too. -/
theorem lt_cursor_iff (hx : x ∈ d.candidates unit a) (hy : y ∈ d.candidates unit a)
    (hc : x.target.cursor? = some c) : c < y.cursor ↔ x.cursor < y.cursor := by
  have hxs := standsAfter_of_mem_candidates hx
  have hle := (Candidate.le_of_cursor?_target hxs hc).2
  refine ⟨Cursor.lt_of_le_of_lt hle, fun hlt => ?_⟩
  cases unit with
  | word =>
    rw [candidates_eq_offered] at hx
    obtain ⟨e, w, rfl, _⟩ := mem_offered_word.mp hx
    obtain rfl := Option.some.inj hc
    exact hlt
  | phrase =>
    obtain ⟨e, p, rfl, _, hlen, he, _⟩ := exists_phrase_of_mem_candidates hx
    obtain ⟨g, q, rfl, _, _, _, hfirst⟩ := exists_phrase_of_mem_candidates hy
    rw [Candidate.cursor?_target_phrase e hlen] at hc
    obtain rfl := Option.some.inj hc
    rw [← Cursor.not_le]
    intro hge
    -- otherwise it would be in the same phrase, which has its candidate at `e` already
    have hkey := Cursor.phraseKey_eq_of_between (Cursor.le_of_lt hlt) hge rfl
    exact hfirst e he hlt hkey.symm

end Document

/-- In reading order what comes behind entry `i` is what is left after it. -/
theorem filter_lt_eq_drop {xs : List Candidate} (hx : xs.Pairwise (·.cursor < ·.cursor)) {i : Nat}
    {x : Candidate} (h : xs[i]? = some x) :
    xs.filter (fun y => x.cursor < y.cursor) = xs.drop (i + 1) := by
  induction xs generalizing i with
  | nil => rfl
  | cons y ys ih =>
    obtain ⟨hlt, hrest⟩ := List.pairwise_cons.mp hx
    rw [List.drop_succ_cons]
    cases i with
    | zero =>
      obtain rfl := Option.some.inj h
      rw [List.filter_cons_of_neg (by simpa using Cursor.lt_irrefl y.cursor), List.drop_zero]
      exact List.filter_eq_self.mpr fun z hz => decide_eq_true (hlt z hz)
    | succ i =>
      have hyx := hlt x (List.mem_of_getElem? h)
      have hxy : ¬ x.cursor < y.cursor := fun hxy =>
        Cursor.lt_irrefl _ (Cursor.lt_trans hxy hyx)
      rw [List.filter_cons_of_neg (by simpa using hxy)]
      exact ih hrest h

namespace Step

variable {d : Document} {a b : Anchor}

/-- The step with another count. -/
def withCount (step : Step) (n : Nat) (h : 0 < n) : Step := { step with count := n, count_pos := h }

/-- The candidates that a step `after` counts. -/
def matching (step : Step) (d : Document) (a : Anchor) : List Candidate :=
  (d.candidates step.unit a).filter fun x => step.accepts x.text

theorem choose_candidates_of_after {step : Step} (hm : step.method = .after) (d : Document)
    (a : Anchor) :
    step.choose a.span step.count none (d.candidates step.unit a) =
      (step.matching d a)[step.count - 1]? :=
  choose_of_after hm _ step.count_pos none _

theorem pairwise_matching (step : Step) (d : Document) (a : Anchor) :
    (step.matching d a).Pairwise (·.cursor < ·.cursor) :=
  (d.pairwise_candidates step.unit a).filter _

/-- From what was found at a count on, the matches are those with later counts. -/
theorem matching_eq_drop {step : Step} {i : Nat} {x : Candidate}
    (hx : (step.matching d a)[i]? = some x) (hb : x.target.anchor? = some b) (hc : b.consumes) :
    step.matching d b = (step.matching d a).drop (i + 1) := by
  have hmem : x ∈ d.candidates step.unit a := (List.mem_filter.mp (List.mem_of_getElem? hx)).1
  have hcursor := Target.cursor_of_anchor? hb
  have hs := d.standsAfter_of_mem_candidates hmem
  have hle : a.cursor ≤ b.cursor :=
    Cursor.le_trans hs.notBefore (Candidate.le_of_cursor?_target hs hcursor).2
  have hend := Document.endsAt_of_mem_candidates hmem hcursor
  calc step.matching d b
      = ((d.candidates step.unit a).filter (b.cursor < ·.cursor)).filter
          fun y => step.accepts y.text := by rw [matching, Document.candidates_eq_filter hle hc hend]
    _ = ((d.candidates step.unit a).filter (x.cursor < ·.cursor)).filter
          fun y => step.accepts y.text := by
        congr 1
        refine List.filter_congr fun y hy => ?_
        rw [decide_eq_decide]
        exact Document.lt_cursor_iff hmem hy hcursor
    _ = (step.matching d a).filter (x.cursor < ·.cursor) := by
        rw [matching, List.filter_filter, List.filter_filter]
        exact List.filter_congr fun y _ => Bool.and_comm _ _
    _ = (step.matching d a).drop (i + 1) := filter_lt_eq_drop (step.pairwise_matching d a) hx

theorem resolve_withCount {step : Step} (hm : step.method = .after) (d : Document) (a : Anchor)
    {n : Nat} (hn : 0 < n) :
    (step.withCount n hn).resolve d a =
      if a.consumes && (d.wordAt? a.cursor).isNone then .notFound
      else match (step.matching d a)[n - 1]? with
        | some x => x.target
        | none => .notFound := by
  have hcount : (step.withCount n hn).method = .after := hm
  rw [resolve, choose_candidates_of_after hcount]
  rfl

theorem exists_of_withCount_anchor? {step : Step} (hm : step.method = .after) {n : Nat} (hn : 0 < n)
    (hb : ((step.withCount n hn).resolve d a).anchor? = some b) :
    ∃ x, (step.matching d a)[n - 1]? = some x ∧ x.target.anchor? = some b := by
  rw [resolve_withCount hm d a hn] at hb
  split at hb
  · exact absurd hb.symm (Option.some_ne_none b)
  · split at hb
    next x hx => exact ⟨x, hx, hb⟩
    next => exact absurd hb.symm (Option.some_ne_none b)

variable {step : Step} {k j : Nat}

/-- A count that finds nothing leaves nothing for a larger one. -/
theorem withCount_add_of_notFound (hm : step.method = .after) (hk : 0 < k)
    (h : (step.withCount k hk).resolve d a = .notFound) :
    (step.withCount (k + j) (Nat.add_pos_left hk j)).resolve d a = .notFound := by
  rw [resolve_withCount hm d a hk] at h
  rw [resolve_withCount hm d a]
  split at h
  next hout => rw [if_pos hout]
  next hout =>
    rw [if_neg hout]
    split at h
    next x _ =>
      obtain ⟨c, hc, _⟩ := x.exists_cursor?_target
      rw [h] at hc
      exact absurd hc.symm (Option.some_ne_none c)
    next hnone =>
      have hlen := List.getElem?_eq_none_iff.mp hnone
      rw [List.getElem?_eq_none (by omega)]

/-- Counting `j` on from what count `k` has found is counting `k + j` from the start. -/
theorem withCount_add_of_anchor? (hm : step.method = .after) (hk : 0 < k) (hj : 0 < j)
    (hb : ((step.withCount k hk).resolve d a).anchor? = some b) (hc : b.consumes) :
    (step.withCount j hj).resolve d b =
      (step.withCount (k + j) (Nat.add_pos_left hk j)).resolve d a := by
  have hfound := (step.withCount k hk).resolve_reached d a (Target.cursor_of_anchor? hb)
  obtain ⟨x, hx, hxb⟩ := exists_of_withCount_anchor? hm hk hb
  have hin : ¬ (a.consumes && (d.wordAt? a.cursor).isNone) = true := by
    intro hout
    rw [resolve_withCount hm d a hk, if_pos hout] at hb
    exact absurd hb.symm (Option.some_ne_none b)
  have hin' : ¬ (b.consumes && (d.wordAt? b.cursor).isNone) = true := by
    rw [Option.isNone_eq_false_iff.mpr hfound.inDocument, Bool.and_false]
    exact Bool.false_ne_true
  have hindex : k - 1 + 1 + (j - 1) = k + j - 1 := by omega
  rw [resolve_withCount hm d b hj, if_neg hin', resolve_withCount hm d a, if_neg hin,
    matching_eq_drop hx hxb hc, List.getElem?_drop, hindex]

end Step

namespace Trail

variable {d : Document} {step : Step}

/-- What a step `after` finds at each of the counts from one to `n`. -/
def countedTo (d : Document) (a : Anchor) (step : Step) (n : Nat) : List Target :=
  (List.range n).map fun i => (step.withCount (i + 1) i.succ_pos).resolve d a

theorem countedTo_succ (d : Document) (a : Anchor) (step : Step) (n : Nat) :
    countedTo d a step (n + 1) = (step.withCount 1 Nat.one_pos).resolve d a ::
      (List.range n).map fun i => (step.withCount (1 + (i + 1))
        (Nat.add_pos_left Nat.one_pos _)).resolve d a := by
  rw [countedTo, List.range_succ_eq_map, List.map_cons, List.map_map]
  congr 1
  refine List.map_congr_left fun i _ => ?_
  simp only [Function.comp_apply, Nat.succ_eq_add_one, Nat.add_comm 1]

/-- Taking a step with count one `n` times finds what the counts from one to `n` find. -/
theorem filter_run_replicate (hm : step.method = .after) (n : Nat) (a : Anchor)
    (hvalue : ∀ t ∈ (countedTo d a step n).dropLast, t.isFound → t.value ≠ "") :
    (run d a (List.replicate n (step.withCount 1 Nat.one_pos))).filter (·.isFound) =
      (countedTo d a step n).filter (·.isFound) := by
  induction n generalizing a with
  | zero => rfl
  | succ n ih =>
    rw [countedTo_succ] at hvalue ⊢
    rw [List.replicate_succ]
    cases hb : ((step.withCount 1 Nat.one_pos).resolve d a).anchor? with
    | none =>
      have hnone := Target.anchor?_eq_none_iff.mp hb
      rw [run_cons_of_notFound hnone, hnone]
      refine (List.filter_eq_nil_iff.mpr fun t ht => ?_).symm
      rcases List.mem_cons.mp ht with rfl | ht
      · exact Bool.false_ne_true
      · obtain ⟨i, _, rfl⟩ := List.mem_map.mp ht
        rw [Step.withCount_add_of_notFound hm Nat.one_pos hnone]
        exact Bool.false_ne_true
    | some b =>
      rw [run_cons_of_anchor? hb]
      cases n with
      | zero => rfl
      | succ n =>
        have hne : (List.range (n + 1)).map (fun i => (step.withCount (1 + (i + 1))
            (Nat.add_pos_left Nat.one_pos _)).resolve d a) ≠ [] := by simp
        rw [List.dropLast_cons_of_ne_nil hne] at hvalue
        obtain ⟨hfirst, hlater⟩ := List.forall_mem_cons.mp hvalue
        have hc : b.consumes := by
          rw [Anchor.consumes_iff, Target.value_of_anchor? hb]
          exact hfirst (Target.isFound_of_cursor? (Target.cursor_of_anchor? hb))
        -- what is counted from the first match on is what is left to be counted
        have hrest : (List.range (n + 1)).map (fun i => (step.withCount (1 + (i + 1))
            (Nat.add_pos_left Nat.one_pos _)).resolve d a) = countedTo d b step (n + 1) :=
          List.map_congr_left fun i _ =>
            (Step.withCount_add_of_anchor? hm Nat.one_pos i.succ_pos hb hc).symm
        rw [hrest] at hlater ⊢
        rw [List.filter_cons, List.filter_cons, ih b hlater]

/-- Counting composes with chaining.  Where count `k` finds nothing, no larger count does; from what it
finds, if that has a text, count `j` finds what count `k + j` finds from the start.  So a chain of
`n` steps with count one meets what the counts from one to `n` find, each once and in order. -/
theorem counts_compose (step : Step) (hm : step.method = .after) (d : Document) (a : Anchor) :
    (∀ k j (hk : 0 < k), (step.withCount k hk).resolve d a = .notFound →
      (step.withCount (k + j) (Nat.add_pos_left hk j)).resolve d a = .notFound) ∧
    (∀ k j (hk : 0 < k) (hj : 0 < j) b, ((step.withCount k hk).resolve d a).anchor? = some b →
      b.value ≠ "" → (step.withCount j hj).resolve d b =
        (step.withCount (k + j) (Nat.add_pos_left hk j)).resolve d a) ∧
    (∀ n, (∀ t ∈ (countedTo d a step n).dropLast, t.isFound → t.value ≠ "") →
      (run d a (List.replicate n (step.withCount 1 Nat.one_pos))).filter (·.isFound) =
        (countedTo d a step n).filter (·.isFound)) := by
  refine ⟨fun k j hk h => Step.withCount_add_of_notFound hm hk h, ?_, ?_⟩
  · intro k j hk hj b hb hne
    exact Step.withCount_add_of_anchor? hm hk hj hb (Anchor.consumes_iff.mpr hne)
  · exact fun n hvalue => filter_run_replicate hm n a hvalue

/-- A page with two totals. -/
def statement : Document := ⟨[⟨[totalLine "12", totalLine "13"]⟩]⟩

/-- From the first word of the first total, phrases are counted: the rest of the first one, and then
the second one. -/
theorem counts_compose_statement :
    ∃ step b, Step.ofSpec {} ⟨1, .after, "Total.*", .phrase⟩ = .ok step ∧ step.method = .after ∧
      let a : Anchor := ⟨"Total", .start, ⟨0, 0.5⟩⟩
      ((step.withCount 1 Nat.one_pos).resolve statement a).anchor? = some b ∧ b.value = "12" ∧
      ((step.withCount 1 Nat.one_pos).resolve statement b).value = "Total 13" ∧
      (step.withCount 1 Nat.one_pos).resolve statement b =
        (step.withCount 2 Nat.two_pos).resolve statement a := by
  let a : Anchor := ⟨"Total", .start, ⟨0, 0.5⟩⟩
  obtain ⟨step, hstep, hfound⟩ := exists_ok_of_map_toOption
    (show (Step.ofSpec {} ⟨1, .after, "Total.*", .phrase⟩).toOption.map (fun s =>
      (s.method, ((s.withCount 1 Nat.one_pos).resolve statement a).anchor?.map (·.value),
        ((s.withCount 2 Nat.two_pos).resolve statement a).value)) =
      some (.after, some "12", "Total 13") by decide +kernel)
  obtain ⟨hm, hfound⟩ := Prod.mk.inj hfound
  obtain ⟨hvalue, hsecond⟩ := Prod.mk.inj hfound
  obtain ⟨b, hb, hbv⟩ := Option.map_eq_some_iff.mp hvalue
  obtain ⟨_, hchain, _⟩ := counts_compose step hm statement a
  have hnext := hchain 1 1 Nat.one_pos Nat.one_pos b hb (hbv ▸ by decide)
  exact ⟨step, b, hstep, hm, hb, hbv, hnext ▸ hsecond, hnext⟩

end Trail

end LayoutTrail
