import LayoutTrail.Proofs.Anchoring

/-!
# The words that a run uses up

A found target stands for a block of words of one phrase: a word for itself, a phrase for all its
words, and the rest of a split phrase for the words from the split on.  The block can be read off the
target and the document, and the blocks of a run do not overlap.
-/

namespace LayoutTrail

theorem joinWords_append {xs ys : List Word} (hx : xs ≠ []) (hy : ys ≠ []) :
    joinWords (xs ++ ys) = joinWords xs ++ " " ++ joinWords ys := by
  rw [joinWords, List.map_append, String.intercalate_append_of_ne_nil]
  · rfl
  · simpa using hx
  · simpa using hy

/-- More words make a longer text, even if they are empty. -/
theorem Phrase.length_textBefore_lt {p : Phrase} {i j : Nat} (h0 : 0 < i) (hij : i < j)
    (hj : j ≤ p.words.length) : (p.textBefore i).length < (p.textBefore j).length := by
  have hsplit : p.words.take j = p.words.take i ++ (p.words.drop i).take (j - i) := by
    rw [← List.take_add, Nat.add_sub_cancel' (Nat.le_of_lt hij)]
  have hx : p.words.take i ≠ [] := List.ne_nil_of_length_pos (by rw [List.length_take]; omega)
  have hy : (p.words.drop i).take (j - i) ≠ [] :=
    List.ne_nil_of_length_pos (by rw [List.length_take, List.length_drop]; omega)
  rw [textBefore, textBefore, hsplit, joinWords_append hx hy, String.length_append,
    String.length_append]
  have hspace : (" " : String).length = 1 := rfl
  omega

/-- How many words a text from the start of a phrase has can be told from the text. -/
theorem Phrase.textBefore_inj {p : Phrase} {i j : Nat} (hi : 0 < i) (hi' : i ≤ p.words.length)
    (hj : 0 < j) (hj' : j ≤ p.words.length) (h : p.textBefore i = p.textBefore j) : i = j := by
  have hlen := congrArg String.length h
  rcases Nat.lt_trichotomy i j with hlt | heq | hgt
  · have := length_textBefore_lt hi hlt hj'
    omega
  · exact heq
  · have := length_textBefore_lt hj hgt hi'
    omega

theorem Anchor.consumes_iff {a : Anchor} : a.consumes ↔ a.value ≠ "" := by
  simp [consumes]

/-- Neighbouring words of a phrase, given by the first and the last. -/
structure Block where
  first : Cursor
  last : Cursor
  deriving DecidableEq, Repr

/-- The positions of the words of a block. -/
def Block.Holds (b : Block) (c : Cursor) : Prop := b.first ≤ c ∧ c ≤ b.last

namespace Target

/-- The words that a target stands for.  Those of a split phrase begin where its first part, the words
used up before, ends. -/
def StandsFor (d : Document) : Target → Block → Prop
  | notFound, _ => False
  | word m, b => d.wordAt? m.cursor = some ⟨m.value, m.quad⟩ ∧ b = ⟨m.cursor, m.cursor⟩
  | phrase m, b => ∃ p i, d.phraseAt? m.cursor = some p ∧ p.lastIndex? = some m.cursor.word ∧
      b = ⟨m.cursor.withWord i, m.cursor⟩ ∧
      match m.segments with
      | none => i = 0
      | some s => 0 < i ∧ i ≤ m.cursor.word ∧ s.first.text = p.textBefore i

variable {d : Document} {t : Target} {b b' : Block}

theorem StandsFor.cursor?_eq (h : t.StandsFor d b) : t.cursor? = some b.last := by
  cases t with
  | notFound => exact absurd h id
  | word m =>
    obtain ⟨_, rfl⟩ := h
    rfl
  | phrase m =>
    obtain ⟨p, i, _, _, rfl, _⟩ := h
    rfl

theorem StandsFor.first_le_last (h : t.StandsFor d b) : b.first ≤ b.last := by
  cases t with
  | notFound => exact absurd h id
  | word m =>
    obtain ⟨_, rfl⟩ := h
    exact Cursor.le_refl _
  | phrase m =>
    obtain ⟨p, i, _, _, rfl, hi⟩ := h
    have hle : i ≤ m.cursor.word := by
      revert hi
      cases m.segments with
      | none => exact fun hi => hi ▸ Nat.zero_le _
      | some s => exact fun hi => hi.2.1
    exact Cursor.withWord_le_withWord m.cursor hle

/-- A target stands for one block only. -/
theorem StandsFor.unique (h : t.StandsFor d b) (h' : t.StandsFor d b') : b' = b := by
  cases t with
  | notFound => exact absurd h id
  | word m => rw [h.2, h'.2]
  | phrase m =>
    obtain ⟨p, i, hp, hlast, rfl, hi⟩ := h
    obtain ⟨p', i', hp', _, rfl, hi'⟩ := h'
    obtain rfl : p = p' := Option.some.inj (hp.symm.trans hp')
    suffices he : i' = i by rw [he]
    cases hs : m.segments with
    | none =>
      rw [hs] at hi hi'
      exact hi'.trans hi.symm
    | some s =>
      -- both splits are told by the text of the same first part
      rw [hs] at hi hi'
      obtain ⟨h0, hle, ht⟩ := hi
      obtain ⟨h0', hle', ht'⟩ := hi'
      have hlen := Phrase.lt_length_of_lastIndex? hlast
      exact Phrase.textBefore_inj h0' (by omega) h0 (by omega) (ht'.symm.trans ht)

end Target

/-- The target of a candidate stands for the words from the candidate on. -/
theorem Candidate.standsFor_target {d : Document} {a : Anchor} {x : Candidate}
    (h : x.StandsAfter d a) : ∃ b, x.target.StandsFor d b ∧ b.first = x.cursor := by
  cases x with
  | word c w => exact ⟨⟨c, c⟩, ⟨h.content, rfl⟩, rfl⟩
  | phrase c p =>
    obtain ⟨hp, hlt⟩ := h.content
    have hlast := Phrase.lastIndex?_eq hlt
    refine ⟨⟨c, c.withWord (p.words.length - 1)⟩, ?_, rfl⟩
    simp only [target, hlast, Option.getD_some]
    by_cases h0 : c.word = 0
    · rw [h0, Phrase.split?_zero]
      exact ⟨p, c.word, hp, hlast, rfl, h0⟩
    · have hpos := Nat.pos_of_ne_zero h0
      rw [Phrase.split?_eq hpos hlt]
      exact ⟨p, c.word, hp, hlast, rfl, hpos, Nat.le_sub_one_of_lt hlt, rfl⟩

/-- What a step finds begins where its anchor leaves the document, after the anchor's word if that
has been used up. -/
theorem Step.exists_standsFor (step : Step) (d : Document) (a : Anchor)
    (h : (step.resolve d a).isFound) : ∃ b, (step.resolve d a).StandsFor d b ∧
      a.cursor ≤ b.first ∧ (a.consumes → a.cursor < b.first) := by
  obtain ⟨x, _, hx, he⟩ := exists_of_isFound h
  have hs := d.standsAfter_of_mem_candidates hx
  obtain ⟨b, hb, hfirst⟩ := Candidate.standsFor_target hs
  rw [he]
  exact ⟨b, hb, hfirst ▸ hs.notBefore, fun hc => hfirst ▸ hs.after hc⟩

theorem Step.le_first_of_standsFor {step : Step} {d : Document} {a : Anchor} {b : Block}
    (h : (step.resolve d a).StandsFor d b) :
    a.cursor ≤ b.first ∧ (a.consumes → a.cursor < b.first) := by
  obtain ⟨b', hb', hle⟩ := step.exists_standsFor d a (Target.isFound_of_cursor? h.cursor?_eq)
  rwa [h.unique hb'] at hle

namespace Trail

variable {d : Document} {a : Anchor}

/-- All that a run finds begins where its anchor leaves the document. -/
theorem le_first_of_mem_run {steps : List Step} {t : Target} {b : Block}
    (ht : t ∈ run d a steps) (hb : t.StandsFor d b) :
    a.cursor ≤ b.first ∧ (a.consumes → a.cursor < b.first) := by
  induction steps generalizing a with
  | nil => exact absurd ht List.not_mem_nil
  | cons step steps ih =>
    rcases mem_run_cons.mp ht with rfl | ⟨next, hnext, ht⟩
    · exact Step.le_first_of_standsFor hb
    · have hreach := step.resolve_reached d a (Target.cursor_of_anchor? hnext)
      obtain ⟨hle, _⟩ := ih ht
      exact ⟨Cursor.le_trans hreach.notBefore hle,
        fun hc => Cursor.lt_of_lt_of_le (hreach.after hc) hle⟩

theorem pairwise_run_blocks (d : Document) (a : Anchor) (steps : List Step) :
    (run d a steps).Pairwise fun s t => s.value ≠ "" →
      ∀ b b', s.StandsFor d b → t.StandsFor d b' → b.last < b'.first := by
  refine pairwise_run (fun a step steps next hnext t ht hne b b' hb hb' => ?_) a steps
  have hlast : b.last = next.cursor :=
    Option.some.inj (hb.cursor?_eq.symm.trans (Target.cursor_of_anchor? hnext))
  rw [hlast]
  -- all that follows is found by a run from the anchor that this target is
  refine (le_first_of_mem_run ht hb').2 (Anchor.consumes_iff.mpr ?_)
  rwa [Target.value_of_anchor? hnext]

/-- No word is used twice along a run.  Every found target stands for exactly one block, which ends at
its position; a block begins after the anchor of the run if the anchor has used up a word, and after
every earlier block whose target has a text, so that these blocks have no word in common. -/
theorem run_blocks_disjoint (d : Document) (a : Anchor) (steps : List Step) :
    (∀ t ∈ run d a steps, t.isFound → ∃ b, t.StandsFor d b ∧
      (∀ b', t.StandsFor d b' → b' = b) ∧ t.cursor? = some b.last ∧ b.first ≤ b.last) ∧
    (∀ t ∈ run d a steps, ∀ b, t.StandsFor d b →
      a.cursor ≤ b.first ∧ (a.value ≠ "" → a.cursor < b.first)) ∧
    (run d a steps).Pairwise fun s t => s.value ≠ "" →
      ∀ b b', s.StandsFor d b → t.StandsFor d b' →
        b.last < b'.first ∧ ∀ c, ¬ (b.Holds c ∧ b'.Holds c) := by
  refine ⟨fun t ht hfound => ?_, fun t ht b hb => ?_, (pairwise_run_blocks d a steps).imp ?_⟩
  · obtain ⟨i, hi⟩ := List.mem_iff_getElem?.mp ht
    obtain ⟨b, step, _, _, rfl⟩ := getElem?_run hi
    obtain ⟨block, hblock, _⟩ := step.exists_standsFor d b hfound
    exact ⟨block, hblock, fun _ h' => hblock.unique h', hblock.cursor?_eq, hblock.first_le_last⟩
  · obtain ⟨hle, hlt⟩ := le_first_of_mem_run ht hb
    exact ⟨hle, fun hne => hlt (Anchor.consumes_iff.mpr hne)⟩
  · intro s t h hne b b' hb hb'
    have hlt := h hne b b' hb hb'
    refine ⟨hlt, fun c ⟨hc, hc'⟩ => Cursor.lt_irrefl c ?_⟩
    exact Cursor.lt_of_le_of_lt hc.2 (Cursor.lt_of_lt_of_le hlt hc'.1)

end Trail

end LayoutTrail
