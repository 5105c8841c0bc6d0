import LayoutTrail.Layout.Document

/-!
# Reading order and the walk through a document

Reading order is linear, and two lists in strict reading order with the same members are the same
list.  The walk from a cursor is in strict reading order and meets exactly the words that are not
before the cursor, which need not name a word itself.
-/

namespace LayoutTrail

namespace Cursor

variable {c d e : Cursor}

theorem lt_iff : c < d ↔ c.page < d.page ∨ (c.page = d.page ∧
    (c.line < d.line ∨ (c.line = d.line ∧
      (c.phrase < d.phrase ∨ (c.phrase = d.phrase ∧ c.word < d.word))))) := Iff.rfl

theorem eq_iff : c = d ↔
    c.page = d.page ∧ c.line = d.line ∧ c.phrase = d.phrase ∧ c.word = d.word := by
  cases c
  cases d
  simp only [mk.injEq]

theorem le_iff : c ≤ d ↔ c.page < d.page ∨ (c.page = d.page ∧
    (c.line < d.line ∨ (c.line = d.line ∧
      (c.phrase < d.phrase ∨ (c.phrase = d.phrase ∧ c.word ≤ d.word))))) := by
  change c < d ∨ c = d ↔ _
  rw [lt_iff, eq_iff]
  omega

theorem lt_irrefl (c : Cursor) : ¬ c < c := by
  rw [lt_iff]
  omega

theorem lt_trans (h : c < d) (h' : d < e) : c < e := by
  rw [lt_iff] at *
  omega

theorem le_of_lt (h : c < d) : c ≤ d := Or.inl h

theorem le_refl (c : Cursor) : c ≤ c := Or.inr rfl

theorem le_trans (h : c ≤ d) (h' : d ≤ e) : c ≤ e := by
  rw [le_iff] at *
  omega

theorem lt_of_lt_of_le (h : c < d) (h' : d ≤ e) : c < e := by
  rw [le_iff] at h'
  rw [lt_iff] at *
  omega

theorem lt_of_le_of_lt (h : c ≤ d) (h' : d < e) : c < e := by
  rw [le_iff] at h
  rw [lt_iff] at *
  omega

theorem not_le : ¬ c ≤ d ↔ d < c := by
  rw [le_iff, lt_iff]
  omega

theorem lt_iff_le_and_ne : c < d ↔ c ≤ d ∧ d ≠ c := by
  rw [le_iff, lt_iff, Ne, eq_iff]
  omega

theorem lineKey_eq_iff : c.lineKey = d.lineKey ↔ c.page = d.page ∧ c.line = d.line := by
  simp only [lineKey, Prod.mk.injEq]

theorem phraseKey_eq_iff :
    c.phraseKey = d.phraseKey ↔ c.page = d.page ∧ c.line = d.line ∧ c.phrase = d.phrase := by
  simp only [phraseKey, Prod.mk.injEq]

/-- A line is not left and entered again. -/
theorem lineKey_eq_of_between (h : c ≤ d) (h' : d ≤ e) (hk : c.lineKey = e.lineKey) :
    d.lineKey = c.lineKey := by
  rw [lineKey_eq_iff] at *
  rw [le_iff] at h h'
  omega

/-- A phrase is not left and entered again. -/
theorem phraseKey_eq_of_between (h : c ≤ d) (h' : d ≤ e) (hk : c.phraseKey = e.phraseKey) :
    d.phraseKey = c.phraseKey := by
  rw [phraseKey_eq_iff] at *
  rw [le_iff] at h h'
  omega

@[simp] theorem word_withWord (c : Cursor) (i : Nat) : (c.withWord i).word = i := rfl

theorem withWord_le_withWord (c : Cursor) {i j : Nat} (h : i ≤ j) :
    c.withWord i ≤ c.withWord j :=
  le_iff.mpr (Or.inr ⟨rfl, Or.inr ⟨rfl, Or.inr ⟨rfl, h⟩⟩⟩)

theorem withWord_lt (c : Cursor) {i : Nat} (h : i < c.word) : c.withWord i < c :=
  lt_iff.mpr (Or.inr ⟨rfl, Or.inr ⟨rfl, Or.inr ⟨rfl, h⟩⟩⟩)

theorem le_withWord (c : Cursor) {j : Nat} (h : c.word ≤ j) : c ≤ c.withWord j :=
  withWord_le_withWord c h

/-- Of two lists in strict reading order with the same members there is only one. -/
theorem eq_of_pairwise_lt {xs ys : List Cursor} (hx : xs.Pairwise (· < ·))
    (hy : ys.Pairwise (· < ·)) (h : ∀ c, c ∈ xs ↔ c ∈ ys) : xs = ys := by
  have nodup {zs : List Cursor} (hz : zs.Pairwise (· < ·)) : zs.Nodup := by
    refine hz.imp ?_
    rintro c _ hcd rfl
    exact lt_irrefl c hcd
  have hp : xs.Perm ys := (List.perm_ext_iff_of_nodup (nodup hx) (nodup hy)).mpr h
  refine hp.eq_of_pairwise (fun c d _ _ hcd hdc => ?_) hx hy
  exact absurd (lt_trans hcd hdc) (lt_irrefl c)

/-- In reading order what is up to a position comes before what is after it. -/
theorem eq_filter_append_filter {xs : List Cursor} (hx : xs.Pairwise (· < ·)) (b : Cursor) :
    xs = xs.filter (· ≤ b) ++ xs.filter (b < ·) := by
  refine eq_of_pairwise_lt hx (List.pairwise_append.mpr ⟨hx.filter _, hx.filter _, ?_⟩) fun c => ?_
  · intro c hc e he
    simp only [List.mem_filter, decide_eq_true_eq] at hc he
    exact lt_of_le_of_lt hc.2 he.2
  · simp only [List.mem_append, List.mem_filter, decide_eq_true_eq, ← not_le, ← and_or_left,
      Classical.em, and_true]

end Cursor

section Indexed

variable {α : Type}

@[simp] theorem mem_indexedFrom {n i : Nat} {xs : List α} {x : α} :
    (x, i) ∈ indexedFrom n xs ↔ n ≤ i ∧ xs[i]? = some x := by
  simp only [indexedFrom, List.mem_iff_getElem?, List.getElem?_drop, List.getElem?_zipIdx,
    Option.map_eq_some_iff, Prod.mk.injEq, Nat.zero_add]
  constructor
  · rintro ⟨k, _, hk, rfl, rfl⟩
    exact ⟨Nat.le_add_right n k, hk⟩
  · rintro ⟨hn, hi⟩
    have he : n + (i - n) = i := by omega
    exact ⟨i - n, x, by rw [he]; exact hi, rfl, he⟩

theorem pairwise_indexedFrom (n : Nat) (xs : List α) :
    (indexedFrom n xs).Pairwise (fun a b => a.2 < b.2) := by
  refine List.Pairwise.drop ?_
  rw [List.pairwise_iff_getElem]
  intro i j hi hj hij
  simpa using hij

/-- Walks through the entries of a list, put one after the other, are in strict reading order if
each is and if a later entry has the later positions. -/
theorem pairwise_flatMap_indexedFrom (n : Nat) (xs : List α) (f : α × Nat → List Cursor)
    (hf : ∀ a, (f a).Pairwise (· < ·))
    (hlt : ∀ a b, a.2 < b.2 → ∀ c ∈ f a, ∀ d ∈ f b, c < d) :
    ((indexedFrom n xs).flatMap f).Pairwise (· < ·) := by
  rw [List.pairwise_flatMap]
  exact ⟨fun a _ => hf a, (pairwise_indexedFrom n xs).imp fun {a b} => hlt a b⟩

end Indexed

section Walk

variable {d : Document} {c : Cursor}

theorem Phrase.mem_positionsFrom {p : Phrase} {page line phrase word : Nat} :
    c ∈ p.positionsFrom page line phrase word ↔
      (c.page = page ∧ c.line = line ∧ c.phrase = phrase) ∧
        word ≤ c.word ∧ c.word < p.words.length := by
  simp only [positionsFrom, List.mem_map, Prod.exists, mem_indexedFrom,
    List.getElem?_eq_some_iff]
  constructor
  · rintro ⟨_, w, ⟨hw, hlt, _⟩, rfl⟩
    exact ⟨⟨rfl, rfl, rfl⟩, hw, hlt⟩
  · rintro ⟨⟨rfl, rfl, rfl⟩, hw, hlt⟩
    exact ⟨_, c.word, ⟨hw, hlt, rfl⟩, rfl⟩

theorem Phrase.pairwise_positionsFrom (p : Phrase) (page line phrase word : Nat) :
    (p.positionsFrom page line phrase word).Pairwise (· < ·) := by
  rw [positionsFrom, List.pairwise_map]
  refine (pairwise_indexedFrom word p.words).imp fun {a b} hab => ?_
  exact Cursor.lt_iff.mpr (Or.inr ⟨rfl, Or.inr ⟨rfl, Or.inr ⟨rfl, hab⟩⟩⟩)

theorem Line.mem_positionsFrom {l : Line} {page line phrase word : Nat} :
    c ∈ l.positionsFrom page line phrase word ↔
      (c.page = page ∧ c.line = line) ∧
        (∃ p, l.phrases[c.phrase]? = some p ∧ c.word < p.words.length) ∧
        (phrase < c.phrase ∨ phrase = c.phrase ∧ word ≤ c.word) := by
  simp only [positionsFrom, List.mem_flatMap, Prod.exists, mem_indexedFrom,
    Phrase.mem_positionsFrom]
  constructor
  · rintro ⟨p, i, ⟨hi, hp⟩, ⟨rfl, rfl, rfl⟩, hw, hlt⟩
    refine ⟨⟨rfl, rfl⟩, ⟨p, hp, hlt⟩, ?_⟩
    split at hw <;> omega
  · rintro ⟨⟨rfl, rfl⟩, ⟨p, hp, hlt⟩, hle⟩
    refine ⟨p, c.phrase, ⟨by omega, hp⟩, ⟨rfl, rfl, rfl⟩, ?_, hlt⟩
    split <;> omega

theorem Line.pairwise_positionsFrom (l : Line) (page line phrase word : Nat) :
    (l.positionsFrom page line phrase word).Pairwise (· < ·) := by
  refine pairwise_flatMap_indexedFrom _ _ _ (fun a => Phrase.pairwise_positionsFrom ..) ?_
  intro a b hab c hc e he
  obtain ⟨⟨hp, hl, hi⟩, _⟩ := Phrase.mem_positionsFrom.mp hc
  obtain ⟨⟨hp', hl', hi'⟩, _⟩ := Phrase.mem_positionsFrom.mp he
  rw [Cursor.lt_iff]
  omega

theorem Page.mem_positionsFrom {p : Page} {page line phrase word : Nat} :
    c ∈ p.positionsFrom page line phrase word ↔
      c.page = page ∧
        (∃ l, p.lines[c.line]? = some l ∧
          ∃ q, l.phrases[c.phrase]? = some q ∧ c.word < q.words.length) ∧
        (line < c.line ∨ line = c.line ∧
          (phrase < c.phrase ∨ phrase = c.phrase ∧ word ≤ c.word)) := by
  simp only [positionsFrom, List.mem_flatMap, Prod.exists, mem_indexedFrom]
  constructor
  · rintro ⟨l, i, ⟨hi, hl⟩, hc⟩
    split at hc
    all_goals
      obtain ⟨⟨rfl, rfl⟩, hq, hle⟩ := Line.mem_positionsFrom.mp hc
      exact ⟨rfl, ⟨l, hl, hq⟩, by omega⟩
  · rintro ⟨rfl, ⟨l, hl, hq⟩, hle⟩
    refine ⟨l, c.line, ⟨by omega, hl⟩, ?_⟩
    split
    all_goals
      exact Line.mem_positionsFrom.mpr ⟨⟨rfl, rfl⟩, hq, by omega⟩

theorem Page.pairwise_positionsFrom (p : Page) (page line phrase word : Nat) :
    (p.positionsFrom page line phrase word).Pairwise (· < ·) := by
  have hline {l : Line} {i : Nat} {c : Cursor}
      (hc : c ∈ if i = line then l.positionsFrom page i phrase word
        else l.positionsFrom page i 0 0) : c.page = page ∧ c.line = i := by
    split at hc <;> exact (Line.mem_positionsFrom.mp hc).1
  refine pairwise_flatMap_indexedFrom _ _ _ (fun ⟨l, i⟩ => ?_) ?_
  · dsimp only
    split <;> exact Line.pairwise_positionsFrom ..
  · intro a b hab c hc e he
    obtain ⟨hp, hl⟩ := hline hc
    obtain ⟨hp', hl'⟩ := hline he
    rw [Cursor.lt_iff]
    omega

theorem Document.phraseAt?_eq_some_iff {p : Phrase} :
    d.phraseAt? c = some p ↔
      ∃ page, d.pages[c.page]? = some page ∧
        ∃ l, page.lines[c.line]? = some l ∧ l.phrases[c.phrase]? = some p := by
  simp only [phraseAt?, Option.bind_eq_bind, Option.bind_eq_some_iff]

theorem Document.wordAt?_eq_some_iff {w : Word} :
    d.wordAt? c = some w ↔ ∃ p, d.phraseAt? c = some p ∧ p.words[c.word]? = some w := by
  simp only [wordAt?, Option.bind_eq_bind, Option.bind_eq_some_iff]

theorem Document.isSome_wordAt?_iff :
    (d.wordAt? c).isSome ↔ ∃ p, d.phraseAt? c = some p ∧ c.word < p.words.length := by
  simp only [Option.isSome_iff_exists, wordAt?_eq_some_iff, List.getElem?_eq_some_iff]
  constructor
  · rintro ⟨_, p, hp, hlt, _⟩
    exact ⟨p, hp, hlt⟩
  · rintro ⟨p, hp, hlt⟩
    exact ⟨_, p, hp, hlt, rfl⟩

/-- The walk from a cursor meets the words that are not before it, and no others. -/
theorem Document.mem_positionsFrom {s : Cursor} :
    c ∈ d.positionsFrom s ↔ (d.wordAt? c).isSome ∧ s ≤ c := by
  simp only [positionsFrom, List.mem_flatMap, Prod.exists, mem_indexedFrom, isSome_wordAt?_iff,
    phraseAt?_eq_some_iff, Cursor.le_iff]
  constructor
  · rintro ⟨p, i, ⟨hi, hp⟩, hc⟩
    split at hc
    all_goals
      obtain ⟨rfl, ⟨l, hl, q, hq, hlt⟩, hle⟩ := Page.mem_positionsFrom.mp hc
      exact ⟨⟨q, ⟨p, hp, l, hl, hq⟩, hlt⟩, by omega⟩
  · rintro ⟨⟨q, ⟨p, hp, l, hl, hq⟩, hlt⟩, hle⟩
    refine ⟨p, c.page, ⟨by omega, hp⟩, ?_⟩
    split
    all_goals
      exact Page.mem_positionsFrom.mpr ⟨rfl, ⟨l, hl, q, hq, hlt⟩, by omega⟩

theorem Document.pairwise_positionsFrom (d : Document) (s : Cursor) :
    (d.positionsFrom s).Pairwise (· < ·) := by
  have hpage {p : Page} {i : Nat} {c : Cursor}
      (hc : c ∈ if i = s.page then p.positionsFrom i s.line s.phrase s.word
        else p.positionsFrom i 0 0 0) : c.page = i := by
    split at hc <;> exact (Page.mem_positionsFrom.mp hc).1
  refine pairwise_flatMap_indexedFrom _ _ _ (fun ⟨p, i⟩ => ?_) ?_
  · dsimp only
    split <;> exact Page.pairwise_positionsFrom ..
  · intro a b hab c hc e he
    have h := hpage hc
    have h' := hpage he
    rw [Cursor.lt_iff]
    omega

/-- The positions of all words of a document, in reading order. -/
def Document.wordPositions (d : Document) : List Cursor :=
  d.pages.zipIdx.flatMap fun (page, i) =>
    page.lines.zipIdx.flatMap fun (line, j) =>
      line.phrases.zipIdx.flatMap fun (phrase, k) =>
        (List.range phrase.words.length).map fun w => ⟨i, j, k, w⟩

theorem Phrase.positionsFrom_zero (p : Phrase) (i j k : Nat) :
    p.positionsFrom i j k 0 = (List.range p.words.length).map fun w => ⟨i, j, k, w⟩ := by
  rw [positionsFrom, indexedFrom, List.drop_zero, List.range_eq_range', ← List.zipIdx_map_snd 0,
    List.map_map]
  rfl

theorem Line.positionsFrom_zero (l : Line) (i j : Nat) :
    l.positionsFrom i j 0 0 = l.phrases.zipIdx.flatMap fun (p, k) => p.positionsFrom i j k 0 := by
  simp only [positionsFrom, indexedFrom, List.drop_zero, ite_self]

theorem Page.positionsFrom_zero (p : Page) (i : Nat) :
    p.positionsFrom i 0 0 0 = p.lines.zipIdx.flatMap fun (l, j) => l.positionsFrom i j 0 0 := by
  simp only [positionsFrom, indexedFrom, List.drop_zero, ite_self]

/-- All words are met on the walk from the start. -/
theorem Document.wordPositions_eq (d : Document) : d.wordPositions = d.positionsFrom .start := by
  simp only [positionsFrom, Cursor.start, indexedFrom, List.drop_zero, ite_self,
    Page.positionsFrom_zero, Line.positionsFrom_zero, Phrase.positionsFrom_zero, wordPositions]

theorem Document.mem_wordPositions : c ∈ d.wordPositions ↔ (d.wordAt? c).isSome := by
  rw [wordPositions_eq, mem_positionsFrom, Cursor.le_iff]
  simp only [Cursor.start]
  constructor
  · exact fun h => h.1
  · exact fun h => ⟨h, by omega⟩

theorem Document.pairwise_wordPositions (d : Document) : d.wordPositions.Pairwise (· < ·) := by
  rw [wordPositions_eq]
  exact d.pairwise_positionsFrom _

/-- The walk from a cursor is the walk from the start without what is before the cursor. -/
theorem Document.positionsFrom_eq_filter (d : Document) (s : Cursor) :
    d.positionsFrom s = d.wordPositions.filter (s ≤ ·) := by
  refine Cursor.eq_of_pairwise_lt (d.pairwise_positionsFrom s)
    (d.pairwise_wordPositions.filter _) fun c => ?_
  rw [mem_positionsFrom, List.mem_filter, mem_wordPositions, decide_eq_true_eq]

end Walk

end LayoutTrail
