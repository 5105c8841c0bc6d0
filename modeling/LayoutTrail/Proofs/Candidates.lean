import LayoutTrail.Proofs.ReadingOrder
import LayoutTrail.Search.Candidate

/-!
# Candidates without the walk

The walk remembers only the phrase it met last.  Since no phrase is left and entered again, that is
enough: the candidates are what stands at the remaining positions or, for phrases, at those that no
other remaining position of the phrase comes before.
-/

namespace LayoutTrail

section Fresh

variable {α κ : Type} [DecidableEq κ]

/-- The entries whose key is not that of the entry kept before; `last` is the key before them all. -/
def freshBy (key : α → κ) (last : Option κ) : List α → List α
  | [] => []
  | x :: xs =>
    if last = some (key x) then freshBy key last xs else x :: freshBy key (some (key x)) xs

/-- In reading order the last key stands for all keys met before: what is kept is the first entry of
each key.  The key in memory belongs to a position `e` before all entries. -/
theorem freshBy_eq_filter {pos : α → Cursor} {key : Cursor → κ}
    (hkey : ∀ {c d e}, c ≤ d → d ≤ e → key c = key e → key d = key c)
    (last : Option κ) (xs : List α) (hx : xs.Pairwise (pos · < pos ·))
    (hl : ∀ k, last = some k → ∃ e, key e = k ∧ ∀ x ∈ xs, e < pos x) :
    freshBy (fun x => key (pos x)) last xs = xs.filter fun x =>
      last ≠ some (key (pos x)) ∧ ∀ y ∈ xs, pos y < pos x → key (pos y) ≠ key (pos x) := by
  induction xs generalizing last with
  | nil => rfl
  | cons x xs ih =>
    obtain ⟨hlt, hrest⟩ := List.pairwise_cons.mp hx
    rw [freshBy, List.filter_cons]
    split
    next hskip =>
      rw [if_neg (by simp [hskip]), ih last hrest fun k hk => ?_]
      · refine List.filter_congr fun z hz => ?_
        simp only [List.forall_mem_cons, decide_eq_decide]
        refine and_congr_right fun hne => ⟨fun h => ⟨fun _ he => hne ?_, h⟩, fun h => h.2⟩
        rw [hskip, he]
      · obtain ⟨e, he, hb⟩ := hl k hk
        exact ⟨e, he, fun y hy => hb y (List.mem_cons_of_mem x hy)⟩
    next hkeep =>
      have hfirst : ∀ y ∈ x :: xs, pos y < pos x → key (pos y) ≠ key (pos x) := by
        intro y hy hyx
        rcases List.mem_cons.mp hy with rfl | hy
        · exact absurd hyx (Cursor.lt_irrefl _)
        · exact absurd (Cursor.lt_trans hyx (hlt y hy)) (Cursor.lt_irrefl _)
      rw [if_pos (decide_eq_true ⟨hkeep, hfirst⟩),
        ih (some (key (pos x))) hrest fun k hk => ⟨pos x, Option.some.inj hk, hlt⟩]
      congr 1
      refine List.filter_congr fun z hz => ?_
      simp only [List.forall_mem_cons, decide_eq_decide, ne_eq, Option.some.injEq]
      constructor
      · rintro ⟨hne, h⟩
        refine ⟨fun hlast => ?_, fun _ => hne, h⟩
        obtain ⟨e, he, hb⟩ := hl _ hlast
        -- the key would be that of `e`, and `x` lies between `e` and `z`
        have hxe := hkey (Cursor.le_of_lt (hb x List.mem_cons_self))
          (Cursor.le_of_lt (hlt z hz)) he
        exact hne (hxe.trans he)
      · rintro ⟨_, hne, h⟩
        exact ⟨hne (hlt z hz), h⟩

end Fresh

/-- The positions that are left from an anchor on: those of the words that are not before its cursor
and, if it has used up the word at its cursor, not that one. -/
def Anchor.remaining (a : Anchor) (d : Document) : List Cursor :=
  d.wordPositions.filter fun c => a.cursor ≤ c ∧ (a.consumes → c ≠ a.cursor)

namespace Document

variable {d : Document} {a : Anchor} {c : Cursor}

theorem mem_remaining : c ∈ a.remaining d ↔
    (d.wordAt? c).isSome ∧ a.cursor ≤ c ∧ (a.consumes → c ≠ a.cursor) := by
  rw [Anchor.remaining, List.mem_filter, mem_wordPositions, decide_eq_true_eq]

theorem pairwise_remaining (d : Document) (a : Anchor) : (a.remaining d).Pairwise (· < ·) :=
  d.pairwise_wordPositions.filter _

/-- What stands at some positions as candidates of a unit: each word, and each phrase at the first of
its positions. -/
def offered (d : Document) (unit : TextUnit) (cs : List Cursor) : List Candidate :=
  match unit with
  | .word => cs.filterMap fun c => (d.wordAt? c).map (.word c)
  | .phrase => (cs.filter fun c => ∀ e ∈ cs, e < c → e.phraseKey ≠ c.phraseKey).filterMap
      fun c => (d.phraseAt? c).map (.phrase c)

theorem mem_offered_word {x : Candidate} {cs : List Cursor} :
    x ∈ d.offered .word cs ↔ ∃ c w, x = .word c w ∧ c ∈ cs ∧ d.wordAt? c = some w := by
  simp only [offered, List.mem_filterMap, Option.map_eq_some_iff]
  constructor
  · rintro ⟨c, hc, w, hw, rfl⟩
    exact ⟨c, w, rfl, hc, hw⟩
  · rintro ⟨c, w, rfl, hc, hw⟩
    exact ⟨c, hc, w, hw, rfl⟩

theorem mem_offered_phrase {x : Candidate} {cs : List Cursor} :
    x ∈ d.offered .phrase cs ↔ ∃ c p, x = .phrase c p ∧ c ∈ cs ∧ d.phraseAt? c = some p ∧
      ∀ e ∈ cs, e < c → e.phraseKey ≠ c.phraseKey := by
  simp only [offered, List.mem_filterMap, Option.map_eq_some_iff, List.mem_filter,
    decide_eq_true_eq]
  constructor
  · rintro ⟨c, ⟨hc, hfirst⟩, p, hp, rfl⟩
    exact ⟨c, p, rfl, hc, hp, hfirst⟩
  · rintro ⟨c, p, rfl, hc, hp, hfirst⟩
    exact ⟨c, ⟨hc, hfirst⟩, p, hp, rfl⟩

theorem candidatesAt_word (d : Document) (last : Option (Nat × Nat × Nat)) (cs : List Cursor) :
    d.candidatesAt .word last cs = d.offered .word cs := by
  simp only [offered]
  induction cs with
  | nil => rfl
  | cons c cs ih =>
    unfold candidatesAt
    cases hp : d.phraseAt? c with
    | none => simp [wordAt?, hp, ih]
    | some p => cases hw : p.words[c.word]? <;> simp [wordAt?, hp, hw, ih]

theorem candidatesAt_phrase (last : Option (Nat × Nat × Nat)) (cs : List Cursor)
    (hv : ∀ c ∈ cs, (d.phraseAt? c).isSome) :
    d.candidatesAt .phrase last cs = (freshBy Cursor.phraseKey last cs).filterMap
      fun c => (d.phraseAt? c).map (.phrase c) := by
  induction cs generalizing last with
  | nil => rfl
  | cons c cs ih =>
    obtain ⟨hc, hcs⟩ := List.forall_mem_cons.mp hv
    obtain ⟨p, hp⟩ := Option.isSome_iff_exists.mp hc
    unfold candidatesAt
    rw [hp, freshBy]
    by_cases h : last = some c.phraseKey <;> simp [h, hp, ih _ hcs]

theorem candidates_eq_candidatesAt (d : Document) (unit : TextUnit) (a : Anchor) :
    d.candidates unit a = d.candidatesAt unit none (a.remaining d) := by
  have hpos : (if a.consumes then (d.positionsFrom a.cursor).filter (· ≠ a.cursor)
      else d.positionsFrom a.cursor) = a.remaining d := by
    rw [positionsFrom_eq_filter, Anchor.remaining]
    split
    next h => simp only [List.filter_filter, h, forall_const, ← Bool.decide_and, and_comm]
    next h => simp only [h, Bool.false_eq_true, false_implies, and_true]
  rw [candidates, hpos]

/-- The candidates from an anchor on are what stands at the remaining positions. -/
theorem candidates_eq_offered (d : Document) (unit : TextUnit) (a : Anchor) :
    d.candidates unit a = d.offered unit (a.remaining d) := by
  rw [candidates_eq_candidatesAt]
  cases unit with
  | word => exact candidatesAt_word d none _
  | phrase =>
    have hv : ∀ c ∈ a.remaining d, (d.phraseAt? c).isSome := by
      intro c hc
      obtain ⟨p, hp, _⟩ := isSome_wordAt?_iff.mp (mem_remaining.mp hc).1
      exact Option.isSome_of_eq_some hp
    rw [candidatesAt_phrase none _ hv, offered]
    congr 1
    have h := @freshBy_eq_filter _ _ _ id Cursor.phraseKey Cursor.phraseKey_eq_of_between none
      (a.remaining d) (d.pairwise_remaining a) (by simp)
    simpa using h

end Document

end LayoutTrail
