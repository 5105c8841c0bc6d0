import LayoutTrail.Pattern.Plan

/-!
# Sets of positions and single matches

A plan carries a set of positions to the positions that the matches of its pattern lead to from there:
one lemma for each construct says so of the function that a part of a plan is, and they are put
together along the pattern.  So the test of a text finds a match if there is one.
-/

namespace LayoutTrail

/-! ## Sets as numbers -/

section Sets

variable {α : Type} {i j : Nat}

theorem testBit_single : (1 <<< i).testBit j = true ↔ j = i := by
  rw [Nat.testBit_shiftLeft, Bool.and_eq_true, decide_eq_true_eq]
  constructor
  · rintro ⟨hle, hbit⟩
    rcases Nat.eq_zero_or_pos (j - i) with hzero | hpos
    · omega
    · obtain ⟨k, hk⟩ : ∃ k, j - i = k + 1 := ⟨j - i - 1, by omega⟩
      rw [hk, Nat.testBit_succ] at hbit
      simp at hbit
  · rintro rfl
    simp

theorem testBit_positionSet (test : α → Bool) (xs : List α) (i : Nat) :
    (positionSet test xs).testBit i = true ↔ ∃ x, xs[i]? = some x ∧ test x = true := by
  induction xs generalizing i with
  | nil => simp [positionSet]
  | cons x xs ih =>
    rw [positionSet]
    cases i with
    | zero =>
      rw [Nat.testBit_zero, decide_eq_true_eq]
      simp only [List.getElem?_cons_zero, Option.some.injEq, exists_eq_left']
      cases test x with
      | false =>
        simp only [Bool.false_eq_true, if_false, iff_false]
        omega
      | true =>
        simp only [if_true, iff_true]
        omega
    | succ i =>
      have hhalf : ((if test x then 1 else 0) + 2 * positionSet test xs) / 2 =
          positionSet test xs := by
        split <;> omega
      rw [Nat.testBit_succ, hhalf, ih, List.getElem?_cons_succ]

theorem testBit_gather (rows : List Nat) (set j : Nat) :
    (gather rows set).testBit j = true ↔
      ∃ i row, rows[i]? = some row ∧ set.testBit i = true ∧ row.testBit j = true := by
  induction rows generalizing set with
  | nil => simp [gather]
  | cons row rows ih =>
    have hlater : (gather rows (set / 2)).testBit j = true ↔ ∃ i row', (row :: rows)[i + 1]? = some row' ∧
        set.testBit (i + 1) = true ∧ row'.testBit j = true := by
      simp only [ih, List.getElem?_cons_succ, Nat.testBit_succ]
    have hfirst : (set % 2 = 1 ∧ row.testBit j = true) ↔ ∃ row', (row :: rows)[0]? = some row' ∧
        set.testBit 0 = true ∧ row'.testBit j = true := by
      simp [Nat.testBit_zero]
    have hsplit : (gather (row :: rows) set).testBit j = true ↔
        (set % 2 = 1 ∧ row.testBit j = true) ∨ (gather rows (set / 2)).testBit j = true := by
      rw [gather]
      by_cases hset : set % 2 = 1 <;> simp [hset, Nat.testBit_or]
    rw [hsplit, hlater, hfirst]
    constructor
    · rintro (⟨row', h⟩ | ⟨i, row', h⟩)
      · exact ⟨0, row', h⟩
      · exact ⟨i + 1, row', h⟩
    · rintro ⟨_ | i, row', h⟩
      · exact Or.inl ⟨row', h⟩
      · exact Or.inr ⟨i, row', h⟩

theorem getElem?_surroundings (before : Option Char) (cs : List Char) (i : Nat) :
    (surroundings before cs)[i]? =
      if i ≤ cs.length then some (if i = 0 then before else cs[i - 1]?, cs[i]?) else none := by
  induction cs generalizing before i with
  | nil => cases i <;> simp [surroundings]
  | cons c cs ih =>
    cases i with
    | zero => simp [surroundings]
    | succ i =>
      rw [surroundings, List.getElem?_cons_succ, ih]
      cases i <;> simp

end Sets

/-! ## Steps between positions -/

namespace Pattern

section Steps

variable {R : Nat → Nat → Prop} {i j k m : Nat}

theorem steps_add : Steps R (k + m) i j ↔ ∃ x, Steps R k i x ∧ Steps R m x j := by
  induction k generalizing i with
  | zero => simp [Steps]
  | succ k ih =>
    rw [Nat.succ_add]
    simp only [Steps, ih]
    constructor
    · rintro ⟨y, hy, x, hx, hj⟩
      exact ⟨x, ⟨y, hy, hx⟩, hj⟩
    · rintro ⟨x, ⟨y, hy, hx⟩, hj⟩
      exact ⟨y, hy, x, hx, hj⟩

/-- What is kept by every step is kept by several. -/
theorem steps_induction {P : Nat → Prop} (h : ∀ i j, R i j → P i → P j) (hs : Steps R k i j)
    (hi : P i) : P j := by
  induction k generalizing i with
  | zero => exact hs ▸ hi
  | succ k ih =>
    obtain ⟨x, hx, hs⟩ := hs
    exact ih hs (h i x hx hi)

end Steps

variable {text : List Char} {p : Pattern} {i j : Nat}

theorem spans_le (h : Spans text p i j) : i ≤ j := by
  induction p generalizing i j with
  | empty => exact Nat.le_of_eq h
  | char set => exact h.1 ▸ Nat.le_succ i
  | look l => exact Nat.le_of_eq h.1
  | seq a b iha ihb =>
    obtain ⟨m, ha, hb⟩ := h
    exact Nat.le_trans (iha ha) (ihb hb)
  | alt a b iha ihb => exact h.elim iha ihb
  | many a least most ih =>
    obtain ⟨k, _, _, hs⟩ := h
    exact steps_induction (fun x y hxy hx => Nat.le_trans hx (ih hxy)) hs (Nat.le_refl i)
  | group a ih => exact ih h

/-- A match that starts in the text ends in it. -/
theorem spans_le_length (h : Spans text p i j) (hi : i ≤ text.length) : j ≤ text.length := by
  induction p generalizing i j with
  | empty => exact h ▸ hi
  | char set =>
    obtain ⟨rfl, c, hc, _⟩ := h
    exact (List.getElem?_eq_some_iff.mp hc).1
  | look l => exact h.1 ▸ hi
  | seq a b iha ihb =>
    obtain ⟨m, ha, hb⟩ := h
    exact ihb hb (iha ha hi)
  | alt a b iha ihb => exact h.elim (iha · hi) (ihb · hi)
  | many a least most ih =>
    obtain ⟨k, _, _, hs⟩ := h
    exact steps_induction (P := (· ≤ text.length)) (fun x y hxy hx => ih hxy hx) hs hi
  | group a ih => exact ih h hi

/-! ## Functions on sets -/

/-- `f` carries a set of positions up to `n` to the positions that `R` leads to from there. -/
def Carries (n : Nat) (f : Nat → Nat) (R : Nat → Nat → Prop) : Prop :=
  ∀ set, (∀ i, set.testBit i = true → i ≤ n) →
    ∀ j, (f set).testBit j = true ↔ ∃ i, set.testBit i = true ∧ R i j

/-- Steps between the positions up to `n` that never go back. -/
structure Forward (n : Nat) (R : Nat → Nat → Prop) : Prop where
  le : ∀ i j, R i j → i ≤ j
  bounded : ∀ i j, R i j → i ≤ n → j ≤ n

section Carries

variable {n k : Nat} {f g : Nat → Nat} {R S : Nat → Nat → Prop} {set : Nat}

theorem forward_spans (text : List Char) (p : Pattern) : Forward text.length (Spans text p) :=
  ⟨fun _ _ => spans_le, fun _ _ => spans_le_length⟩

theorem Forward.le_of_steps (hR : Forward n R) (h : Steps R k i j) : i ≤ j :=
  steps_induction (fun x y hxy hx => Nat.le_trans hx (hR.le x y hxy)) h (Nat.le_refl i)

theorem Forward.bounded_of_steps (hR : Forward n R) (h : Steps R k i j) (hi : i ≤ n) : j ≤ n :=
  steps_induction (P := (· ≤ n)) hR.bounded h hi

theorem Carries.le (h : Carries n f R) (hR : Forward n R)
    (hset : ∀ i, set.testBit i = true → i ≤ n) (hj : (f set).testBit j = true) : j ≤ n := by
  obtain ⟨i, hi, hij⟩ := (h set hset j).mp hj
  exact hR.bounded i j hij (hset i hi)

/-- A function that carries sets is known by its relation only. -/
theorem Carries.congr (h : Carries n f R) (hRS : ∀ i j, R i j ↔ S i j) : Carries n f S := by
  intro set hset j
  simp only [h set hset j, hRS]

theorem carries_comp (hf : Carries n f R) (hR : Forward n R) (hg : Carries n g S) :
    Carries n (fun set => g (f set)) fun i j => ∃ m, R i m ∧ S m j := by
  intro set hset j
  rw [hg (f set) (fun i hi => hf.le hR hset hi) j]
  constructor
  · rintro ⟨m, hm, hmj⟩
    obtain ⟨i, hi, him⟩ := (hf set hset m).mp hm
    exact ⟨i, hi, m, him, hmj⟩
  · rintro ⟨i, hi, m, him, hmj⟩
    exact ⟨m, (hf set hset m).mpr ⟨i, hi, him⟩, hmj⟩

theorem carries_union (hf : Carries n f R) (hg : Carries n g S) :
    Carries n (fun set => f set ||| g set) fun i j => R i j ∨ S i j := by
  intro set hset j
  rw [Nat.testBit_or, Bool.or_eq_true, hf set hset j, hg set hset j]
  simp only [and_or_left, exists_or]

theorem carries_id (n : Nat) : Carries n (fun set => set) Eq := by
  intro set _ j
  simp only [exists_eq_right]

/-- Once a set is kept, more rounds change nothing, so the rounds left out are not missed. -/
theorem carries_iterate (hf : Carries n f R) (hR : Forward n R) (k : Nat) :
    Carries n (iterate f k) (Steps R k) := by
  induction k with
  | zero => exact carries_id n
  | succ k ih =>
    intro set hset j
    have hrest : (iterate f k (f set)).testBit j = true ↔
        ∃ i, set.testBit i = true ∧ Steps R (k + 1) i j := carries_comp hf hR ih set hset j
    rw [iterate]
    split
    next hsame =>
      -- the set stays the same in all further rounds
      have hstays : ∀ k, iterate f k set = set := by
        intro k
        cases k with
        | zero => rfl
        | succ k => rw [iterate, if_pos hsame]
      rwa [hsame, hstays] at hrest
    next => exact hrest

theorem steps_eq_or_iff :
    Steps (fun i j => i = j ∨ R i j) k i j ↔ ∃ m, m ≤ k ∧ Steps R m i j := by
  induction k generalizing i with
  | zero =>
    constructor
    · exact fun h => ⟨0, Nat.le_refl 0, h⟩
    · rintro ⟨m, hm, h⟩
      obtain rfl := Nat.le_zero.mp hm
      exact h
  | succ k ih =>
    simp only [Steps, ih]
    constructor
    · rintro ⟨x, rfl | hx, m, hm, h⟩
      · exact ⟨m, Nat.le_succ_of_le hm, h⟩
      · exact ⟨m + 1, Nat.succ_le_succ hm, x, hx, h⟩
    · rintro ⟨_ | m, hm, h⟩
      · exact ⟨i, Or.inl rfl, 0, Nat.zero_le k, h⟩
      · obtain ⟨x, hx, h⟩ := h
        exact ⟨x, Or.inr hx, m, Nat.le_of_succ_le_succ hm, h⟩

theorem carries_upTo (hf : Carries n f R) (hR : Forward n R) (k : Nat) :
    Carries n (iterate (fun set => set ||| f set) k) fun i j => ∃ m, m ≤ k ∧ Steps R m i j := by
  have hstay : Forward n fun i j => i = j ∨ R i j :=
    ⟨fun i j h => h.elim Nat.le_of_eq (hR.le i j),
      fun i j h hi => h.elim (fun heq => heq ▸ hi) (hR.bounded i j · hi)⟩
  exact (carries_iterate (carries_union (carries_id n) hf) hstay k).congr fun _ _ => steps_eq_or_iff

theorem length_closureRows (f : Nat → Nat) (i k : Nat) : (closureRows f i k).length = k + 1 := by
  induction k generalizing i with
  | zero => rfl
  | succ k ih => rw [closureRows, List.length_cons, ih]

/-- Steps that lead away from a position leave it with one of them. -/
theorem exists_steps_iff (hR : Forward n R) :
    (∃ m, Steps R m i j) ↔ j = i ∨ ∃ t, R i (i + 1 + t) ∧ ∃ m, Steps R m (i + 1 + t) j := by
  constructor
  · rintro ⟨m, h⟩
    induction m with
    | zero => exact Or.inl h.symm
    | succ m ih =>
      obtain ⟨x, hx, h⟩ := h
      by_cases hix : x = i
      · exact ih (hix ▸ h)
      · have hle := hR.le i x hx
        obtain ⟨t, rfl⟩ : ∃ t, x = i + 1 + t := ⟨x - (i + 1), by omega⟩
        exact Or.inr ⟨t, hx, m, h⟩
  · rintro (rfl | ⟨t, hx, m, h⟩)
    · exact ⟨0, rfl⟩
    · exact ⟨m + 1, _, hx, h⟩

/-- Row `t` holds what steps lead to from position `i + t`. -/
theorem testBit_closureRows (hf : Carries n f R) (hR : Forward n R) {i k : Nat} (hn : i + k = n)
    {t row : Nat} (hrow : (closureRows f i k)[t]? = some row) :
    row.testBit j = true ↔ ∃ m, Steps R m (i + t) j := by
  induction k generalizing i t row j with
  | zero =>
    obtain ⟨rfl, rfl⟩ : t = 0 ∧ row = 1 <<< i := by
      cases t with
      | zero => exact ⟨rfl, (Option.some.inj hrow).symm⟩
      | succ t => cases hrow
    rw [testBit_single, Nat.add_zero]
    constructor
    · rintro rfl
      exact ⟨0, rfl⟩
    · rintro ⟨m, h⟩
      have hle := hR.le_of_steps h
      have hbound := hR.bounded_of_steps h (Nat.le_of_eq hn)
      omega
  | succ k ih =>
    have hlater {t row j : Nat} (h : (closureRows f (i + 1) k)[t]? = some row) :
        row.testBit j = true ↔ ∃ m, Steps R m (i + 1 + t) j := ih (by omega) h
    rw [closureRows] at hrow
    cases t with
    | succ t =>
      rw [hlater (by simpa using hrow)]
      have harg : i + 1 + t = i + (t + 1) := by omega
      rw [harg]
    | zero =>
      obtain rfl := Option.some.inj hrow
      have hstart : ∀ x, (1 <<< i).testBit x = true → x ≤ n := fun x hx => by
        have := testBit_single.mp hx
        omega
      have hstep (x : Nat) : (f (1 <<< i)).testBit x = true ↔ R i x := by
        simp only [hf _ hstart x, testBit_single, exists_eq_left]
      rw [Nat.testBit_or, Bool.or_eq_true, testBit_single, testBit_gather, Nat.add_zero,
        exists_steps_iff hR]
      refine or_congr_right ⟨?_, ?_⟩
      · rintro ⟨t, row, hrow, hbit, hj⟩
        rw [Nat.testBit_shiftRight, hstep] at hbit
        exact ⟨t, hbit, (hlater hrow).mp hj⟩
      · rintro ⟨t, hx, hm⟩
        have hbound := hR.bounded _ _ hx (by omega)
        have hlt : t < (closureRows f (i + 1) k).length := by
          rw [length_closureRows]
          omega
        refine ⟨t, _, List.getElem?_eq_getElem hlt, ?_, ?_⟩
        · rw [Nat.testBit_shiftRight, hstep]
          exact hx
        · exact (hlater (List.getElem?_eq_getElem hlt)).mpr hm

theorem carries_closure (hf : Carries n f R) (hR : Forward n R) :
    Carries n (gather (closureRows f 0 n)) fun i j => ∃ m, Steps R m i j := by
  intro set hset j
  rw [testBit_gather]
  constructor
  · rintro ⟨i, row, hrow, hi, hj⟩
    rw [testBit_closureRows hf hR (Nat.zero_add n) hrow, Nat.zero_add] at hj
    exact ⟨i, hi, hj⟩
  · rintro ⟨i, hi, hm⟩
    have hlt : i < (closureRows f 0 n).length := by
      rw [length_closureRows]
      exact Nat.lt_succ_of_le (hset i hi)
    refine ⟨i, _, List.getElem?_eq_getElem hlt, hi, ?_⟩
    rw [testBit_closureRows hf hR (Nat.zero_add n) (List.getElem?_eq_getElem hlt), Nat.zero_add]
    exact hm

end Carries

/-! ## Plans -/

theorem getElem?_surroundings_text (text : List Char) (i : Nat) :
    (surroundings none text)[i]? = if i ≤ text.length then some (around text i) else none :=
  getElem?_surroundings none text i

theorem carries_advance (text : List Char) (set : Unicode.CharSet) :
    Carries text.length (Plan.advance (positionSet set.contains text)).image
      (Spans text (char set)) := by
  intro start _ j
  rw [Plan.image, Nat.testBit_shiftLeft, Nat.testBit_and]
  simp only [Bool.and_eq_true, decide_eq_true_eq, testBit_positionSet, Spans]
  constructor
  · rintro ⟨hj, hfrom, hset⟩
    exact ⟨j - 1, hfrom, by omega, hset⟩
  · rintro ⟨i, hfrom, rfl, hset⟩
    exact ⟨Nat.le_add_left 1 i, hfrom, hset⟩

theorem carries_guard (text : List Char) (l : Look) :
    Carries text.length (Plan.guard (positionSet (fun around => l.holds around.1 around.2)
      (surroundings none text))).image (Spans text (look l)) := by
  intro start hstart j
  rw [Plan.image, Nat.testBit_and, Bool.and_eq_true, testBit_positionSet]
  simp only [getElem?_surroundings_text, Spans]
  constructor
  · rintro ⟨hj, x, hx, hholds⟩
    rw [if_pos (hstart j hj)] at hx
    obtain rfl := Option.some.inj hx
    exact ⟨j, hj, rfl, hholds⟩
  · rintro ⟨i, hi, rfl, hholds⟩
    exact ⟨hi, _, if_pos (hstart i hi), hholds⟩

theorem carries_seq {n : Nat} {a b : Plan} {R S : Nat → Nat → Prop} (ha : Carries n a.image R)
    (hR : Forward n R) (hb : Carries n b.image S) :
    Carries n (Plan.seq a b).image fun i j => ∃ m, R i m ∧ S m j := by
  intro set hset j
  have hboth : (b.image (a.image set)).testBit j = true ↔ _ := carries_comp ha hR hb set hset j
  have hnone : (b.image 0).testBit j = false := by
    rw [← Bool.not_eq_true, hb 0 (by simp) j]
    simp
  rw [← hboth]
  simp only [Plan.image]
  split
  next hempty => rw [hempty, hnone, Nat.zero_testBit]
  next => rfl

/-- A plan leads from a set of positions to where the matches of its pattern lead. -/
theorem carries_plan (text : List Char) (p : Pattern) :
    Carries text.length (p.plan text).image (Spans text p) := by
  induction p with
  | empty => exact carries_id _
  | char set => exact carries_advance text set
  | look l => exact carries_guard text l
  | seq a b iha ihb => exact carries_seq iha (forward_spans text a) ihb
  | alt a b iha ihb => exact carries_union iha ihb
  | group a ih => exact ih
  | many a least most ih =>
    have ha := forward_spans text a
    have htimes : Carries text.length (Plan.times (a.plan text) least).image
        (Steps (Spans text a) least) := carries_iterate ih ha least
    have hforward : Forward text.length (Steps (Spans text a) least) :=
      ⟨fun _ _ => ha.le_of_steps, fun _ _ => ha.bounded_of_steps⟩
    have hsplit (bound : Nat → Prop) (i j : Nat) :
        (∃ x, Steps (Spans text a) least i x ∧ ∃ m, bound (least + m) ∧ Steps (Spans text a) m x j) ↔
          ∃ k, least ≤ k ∧ bound k ∧ Steps (Spans text a) k i j := by
      constructor
      · rintro ⟨x, hx, m, hm, hj⟩
        exact ⟨least + m, Nat.le_add_right least m, hm, steps_add.mpr ⟨x, hx, hj⟩⟩
      · rintro ⟨k, hle, hk, h⟩
        obtain ⟨m, rfl⟩ := Nat.exists_eq_add_of_le hle
        obtain ⟨x, hx, hj⟩ := steps_add.mp h
        exact ⟨x, hx, m, hk, hj⟩
    cases most with
    | none =>
      have hclosure : Carries text.length
          (Plan.closure (closureRows (a.plan text).image 0 text.length)).image
          fun i j => ∃ m, Steps (Spans text a) m i j := carries_closure ih ha
      refine (carries_seq htimes hforward hclosure).congr fun i j => ?_
      have h := hsplit (fun _ => True) i j
      simp only [true_and] at h
      rw [h]
      simp only [Spans, Option.mem_def, reduceCtorEq, false_implies, implies_true, true_and]
    | some most =>
      have hspans (i j : Nat) : Spans text (many a least (some most)) i j ↔
          ∃ k, least ≤ k ∧ k ≤ most ∧ Steps (Spans text a) k i j := by
        simp only [Spans, Option.mem_def, Option.some.injEq, forall_eq']
      rw [plan]
      by_cases hlt : most < least
      · intro set _ j
        simp only [if_pos hlt, Plan.image, Nat.and_zero, Nat.zero_testBit, hspans]
        refine iff_of_false Bool.false_ne_true ?_
        rintro ⟨i, _, k, hle, hk, _⟩
        omega
      · simp only [if_neg hlt]
        have hupTo : Carries text.length (Plan.upTo (a.plan text) (most - least)).image
            fun i j => ∃ m, m ≤ most - least ∧ Steps (Spans text a) m i j :=
          carries_upTo ih ha (most - least)
        refine (carries_seq htimes hforward hupTo).congr fun i j => ?_
        have hbound (m : Nat) : m ≤ most - least ↔ least + m ≤ most := by omega
        rw [hspans, ← hsplit]
        simp only [hbound]

/-- The search finds a match in a text if there is one. -/
theorem occursIn_iff (p : Pattern) (text : String) :
    p.occursIn text = true ↔ p.Occurs text.toList := by
  have hall (i : Nat) : (positions text.toList).testBit i = true ↔ i ≤ text.toList.length := by
    rw [positions, testBit_positionSet, getElem?_surroundings_text]
    split <;> simp [*]
  have himage (j : Nat) := carries_plan text.toList p (positions text.toList) (fun i => (hall i).mp) j
  rw [occursIn, bne_iff_ne, Occurs]
  constructor
  · intro h
    obtain ⟨j, hj⟩ := Nat.exists_testBit_of_ne_zero h
    obtain ⟨i, hi, hij⟩ := (himage j).mp hj
    exact ⟨i, j, (hall i).mp hi, hij⟩
  · rintro ⟨i, j, hi, hij⟩ hzero
    have hj := (himage j).mpr ⟨i, (hall i).mpr hi, hij⟩
    rw [hzero, Nat.zero_testBit] at hj
    exact Bool.false_ne_true hj

end Pattern

end LayoutTrail
