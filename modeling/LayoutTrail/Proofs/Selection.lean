import LayoutTrail.Proofs.Candidates
import LayoutTrail.Search.Resolve

/-!
# Resolution without a search

A step finds the candidate at its count in the list of all candidates that qualify.  The list is
given by filters over the word positions of the document; the line that the search remembers does
not occur in it.
-/

namespace LayoutTrail

namespace Candidate

variable {d : Document} {a : Anchor} {unit : TextUnit} {x : Candidate}

theorem cursor_of_mem_offered {cs : List Cursor} (h : x ∈ d.offered unit cs) : x.cursor ∈ cs := by
  cases unit with
  | word =>
    obtain ⟨c, w, rfl, hc, _⟩ := Document.mem_offered_word.mp h
    exact hc
  | phrase =>
    obtain ⟨c, p, rfl, hc, _⟩ := Document.mem_offered_phrase.mp h
    exact hc

end Candidate

/-- Candidates stand in strict reading order if their positions do. -/
theorem Document.pairwise_offered (d : Document) (unit : TextUnit) {cs : List Cursor}
    (hc : cs.Pairwise (· < ·)) : (d.offered unit cs).Pairwise (·.cursor < ·.cursor) := by
  cases unit with
  | word =>
    refine hc.filterMap _ fun c e hce x hx y hy => ?_
    obtain ⟨_, _, rfl⟩ := Option.map_eq_some_iff.mp hx
    obtain ⟨_, _, rfl⟩ := Option.map_eq_some_iff.mp hy
    exact hce
  | phrase =>
    refine (hc.filter _).filterMap _ fun c e hce x hx y hy => ?_
    obtain ⟨_, _, rfl⟩ := Option.map_eq_some_iff.mp hx
    obtain ⟨_, _, rfl⟩ := Option.map_eq_some_iff.mp hy
    exact hce

theorem Document.pairwise_candidates (d : Document) (unit : TextUnit) (a : Anchor) :
    (d.candidates unit a).Pairwise (·.cursor < ·.cursor) := by
  rw [candidates_eq_offered]
  exact d.pairwise_offered unit (d.pairwise_remaining a)

namespace Step

variable {step : Step} {reference : Span}

/-- At one candidate the search ends with it, or goes on with a count and a line that depend on this
candidate only. -/
theorem choose_cons_cases (step : Step) (reference : Span) (n : Nat) (line : Option (Nat × Nat))
    (x : Candidate) : (∀ xs, step.choose reference n line (x :: xs) = some x) ∨
      ∃ n' line', ∀ xs, step.choose reference n line (x :: xs) = step.choose reference n' line' xs := by
  simp only [choose]
  generalize (step.accepts x.text && _) = counts
  cases counts with
  | false => exact Or.inr ⟨n, line, fun _ => rfl⟩
  | true =>
    by_cases hn : n ≤ 1
    · exact Or.inl fun _ => by rw [if_pos rfl, if_pos hn]
    · exact Or.inr ⟨n - 1, some x.cursor.lineKey, fun _ => by rw [if_pos rfl, if_neg hn]⟩

theorem mem_of_choose {x : Candidate} {n : Nat} {line : Option (Nat × Nat)}
    {xs : List Candidate} (h : step.choose reference n line xs = some x) : x ∈ xs := by
  induction xs generalizing n line with
  | nil => cases h
  | cons y ys ih =>
    rcases step.choose_cons_cases reference n line y with hend | ⟨n', line', hon⟩
    · rw [hend] at h
      obtain rfl := Option.some.inj h
      exact List.mem_cons_self
    · rw [hon] at h
      exact List.mem_cons_of_mem y (ih h)

/-- Whether a candidate qualifies among all candidates `xs`: the pattern matches its text and, for
the method `below`, it overlaps the anchor and no candidate before it in its line both matches and
overlaps. -/
def qualifies (step : Step) (reference : Span) (xs : List Candidate) (x : Candidate) : Bool :=
  step.accepts x.text && match step.method with
    | .after => true
    | .below => reference.overlaps x.span && decide (∀ y ∈ xs, y.cursor < x.cursor →
        y.cursor.lineKey = x.cursor.lineKey →
          ¬ (step.accepts y.text ∧ reference.overlaps y.span))

/-- Counting down to one along a list leads to the entry at the count. -/
theorem getElem?_cons_pred {α : Type} (x : α) (xs : List α) {n : Nat} (hn : 0 < n) :
    (x :: xs)[n - 1]? = if n ≤ 1 then some x else xs[n - 1 - 1]? := by
  by_cases h : n ≤ 1
  · rw [if_pos h, Nat.sub_eq_zero_of_le h, List.getElem?_cons_zero]
  · obtain ⟨k, rfl⟩ : ∃ k, n = k + 2 := ⟨n - 2, by omega⟩
    rw [if_neg h]
    rfl

theorem choose_of_after (hm : step.method = .after) (n : Nat) (hn : 0 < n)
    (line : Option (Nat × Nat)) (xs : List Candidate) :
    step.choose reference n line xs = (xs.filter fun x => step.accepts x.text)[n - 1]? := by
  induction xs generalizing n line with
  | nil => rfl
  | cons x xs ih =>
    simp only [choose, hm, Bool.and_true, List.filter_cons]
    split
    · rw [getElem?_cons_pred x _ hn]
      split
      · rfl
      · exact ih _ (by omega) _
    · exact ih n hn line

theorem choose_of_below (hm : step.method = .below) (n : Nat) (hn : 0 < n)
    (line : Option (Nat × Nat)) (xs : List Candidate) :
    step.choose reference n line xs =
      (freshBy (fun x => x.cursor.lineKey) line
        (xs.filter fun x => step.accepts x.text && reference.overlaps x.span))[n - 1]? := by
  induction xs generalizing n line with
  | nil => rfl
  | cons x xs ih =>
    simp only [choose, hm, List.filter_cons]
    by_cases hx : step.accepts x.text && reference.overlaps x.span
    · obtain ⟨hacc, hover⟩ := Bool.and_eq_true_iff.mp hx
      rw [if_pos hx, freshBy]
      simp only [hacc, hover, Bool.and_true, Bool.true_and, bne_iff_ne, ne_eq]
      -- one that matches and overlaps counts unless its line is the one in memory
      by_cases hold : line = some x.cursor.lineKey
      · rw [if_pos hold, if_neg (not_not_intro hold)]
        exact ih n hn line
      · rw [if_neg hold, if_pos hold, getElem?_cons_pred x _ hn]
        split
        · rfl
        · exact ih _ (by omega) _
    · rw [if_neg hx, if_neg]
      · exact ih n hn line
      · intro h
        simp only [Bool.and_eq_true] at h hx
        exact hx ⟨h.1, h.2.2⟩

/-- Among candidates in reading order the search takes the one at its count of those that qualify. -/
theorem choose_eq_getElem? (step : Step) (reference : Span) (n : Nat) (hn : 0 < n)
    (xs : List Candidate) (hx : xs.Pairwise (·.cursor < ·.cursor)) :
    step.choose reference n none xs = (xs.filter (step.qualifies reference xs))[n - 1]? := by
  cases hm : step.method with
  | after =>
    rw [choose_of_after hm n hn]
    congr 1
    refine List.filter_congr fun x _ => ?_
    rw [qualifies, hm, Bool.and_true]
  | below =>
    rw [choose_of_below hm n hn, freshBy_eq_filter Cursor.lineKey_eq_of_between none _ (hx.filter _)
      (by simp), List.filter_filter]
    congr 1
    refine List.filter_congr fun x _ => ?_
    rw [Bool.eq_iff_iff]
    simp only [qualifies, hm, Bool.and_eq_true, decide_eq_true_eq, List.mem_filter, ne_eq,
      reduceCtorEq, not_false_eq_true, true_and]
    constructor
    · rintro ⟨h, hacc, hover⟩
      exact ⟨hacc, hover, fun y hy hlt hk hy' => h y ⟨hy, hy'⟩ hlt hk⟩
    · rintro ⟨hacc, hover, h⟩
      exact ⟨fun y hy hlt hk => h y hy.1 hlt hk hy.2, hacc, hover⟩

/-- The candidates of a step from an anchor on that qualify, in reading order. -/
def qualifying (step : Step) (d : Document) (a : Anchor) : List Candidate :=
  let xs := d.offered step.unit (a.remaining d)
  xs.filter (step.qualifies a.span xs)

/-- What a step is to find: nothing if the anchor has used up a word that is not there, and else what
the candidate at its count stands for. -/
def selection (step : Step) (d : Document) (a : Anchor) : Target :=
  if a.consumes && (d.wordAt? a.cursor).isNone then .notFound
  else match (step.qualifying d a)[step.count - 1]? with
    | some x => x.target
    | none => .notFound

theorem choose_candidates (step : Step) (d : Document) (a : Anchor) :
    step.choose a.span step.count none (d.candidates step.unit a) =
      (step.qualifying d a)[step.count - 1]? := by
  rw [choose_eq_getElem? step a.span step.count step.count_pos _ (d.pairwise_candidates _ a),
    d.candidates_eq_offered]
  rfl

/-- The search through the document, with the phrase and the line that it remembers, finds what the
filters select, whatever the document, the anchor and the step. -/
theorem resolve_eq_selection (step : Step) (d : Document) (a : Anchor) :
    step.resolve d a = step.selection d a := by
  rw [resolve, choose_candidates]
  rfl

end Step

end LayoutTrail
