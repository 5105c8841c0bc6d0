import LayoutTrail.Proofs.Counting

/-!
# Anchors outside the document

A stored anchor may name a word that the document does not have.  That is noticed only if the anchor
has used up its word.  An anchor without a text has used up nothing, its word is not looked up, and the
search begins at the next word that there is.
-/

namespace LayoutTrail

namespace Document

variable {d : Document} {a : Anchor} {c e e' : Cursor} {rest : List Cursor}

/-- The first word of the document that is not before `c` is at `e`. -/
structure NextWord (d : Document) (c e : Cursor) : Prop where
  isWord : (d.wordAt? e).isSome
  notBefore : c ≤ e
  least : ∀ e', (d.wordAt? e').isSome → c ≤ e' → e ≤ e'

theorem NextWord.unique (h : d.NextWord c e) (h' : d.NextWord c e') : e' = e := by
  have hle := h.least e' h'.isWord h'.notBefore
  have hge := h'.least e h.isWord h.notBefore
  rw [Cursor.le_iff] at hle hge
  rw [Cursor.eq_iff]
  omega

theorem nextWord_of_positionsFrom (h : d.positionsFrom c = e :: rest) : d.NextWord c e := by
  have hpairs := d.pairwise_positionsFrom c
  have hfirst : e ∈ d.positionsFrom c := by
    rw [h]
    exact List.mem_cons_self
  rw [h] at hpairs
  obtain ⟨hlater, _⟩ := List.pairwise_cons.mp hpairs
  obtain ⟨hword, hle⟩ := mem_positionsFrom.mp hfirst
  refine ⟨hword, hle, fun e' hword' hle' => ?_⟩
  have hmem : e' ∈ d.positionsFrom c := mem_positionsFrom.mpr ⟨hword', hle'⟩
  rw [h, List.mem_cons] at hmem
  rcases hmem with rfl | hmem
  · exact Cursor.le_refl e'
  · exact Cursor.le_of_lt (hlater e' hmem)

/-- Either all words come before a position, or there is a next one. -/
theorem forall_lt_or_exists_nextWord (d : Document) (c : Cursor) :
    (∀ e, (d.wordAt? e).isSome → e < c) ∨ ∃ e, d.NextWord c e := by
  cases hwalk : d.positionsFrom c with
  | nil =>
    refine Or.inl fun e hword => Cursor.not_le.mp fun hle => ?_
    have hmem : e ∈ d.positionsFrom c := mem_positionsFrom.mpr ⟨hword, hle⟩
    rw [hwalk] at hmem
    exact absurd hmem List.not_mem_nil
  | cons e rest => exact Or.inr ⟨e, nextWord_of_positionsFrom hwalk⟩

theorem remaining_eq_nil (h : ∀ e, (d.wordAt? e).isSome → e < a.cursor) : a.remaining d = [] := by
  apply List.eq_nil_iff_forall_not_mem.mpr
  intro e he
  obtain ⟨hword, hle, _⟩ := mem_remaining.mp he
  exact Cursor.lt_irrefl e (Cursor.lt_of_lt_of_le (h e hword) hle)

/-- Moving an anchor that has used up nothing on to the next word leaves the same words. -/
theorem remaining_nextWord (ha : ¬ a.consumes) (h : d.NextWord a.cursor c) :
    ({ a with cursor := c } : Anchor).remaining d = a.remaining d := by
  have hmoved : ¬ ({ a with cursor := c } : Anchor).consumes := ha
  apply Cursor.eq_of_pairwise_lt (d.pairwise_remaining _) (d.pairwise_remaining a)
  intro e
  rw [mem_remaining, mem_remaining]
  refine and_congr_right fun hword => ?_
  constructor
  · rintro ⟨hle, _⟩
    exact ⟨Cursor.le_trans h.notBefore hle, fun hc => absurd hc ha⟩
  · rintro ⟨hle, _⟩
    exact ⟨h.least e hword hle, fun hc => absurd hc hmoved⟩

end Document

namespace Step

variable {step : Step} {d : Document} {a b : Anchor}

theorem resolve_of_remaining_eq_nil (h : a.remaining d = []) (step : Step) :
    step.resolve d a = .notFound := by
  rcases step.resolve_cases d a with hnone | ⟨_, x, hx, _⟩
  · exact hnone
  · rw [d.candidates_eq_candidatesAt, h] at hx
    exact absurd hx List.not_mem_nil

/-- Anchors that have used up nothing differ only in the words they leave and in their extents. -/
theorem resolve_eq_of_remaining_eq (ha : ¬ a.consumes) (hb : ¬ b.consumes) (hspan : a.span = b.span)
    (h : a.remaining d = b.remaining d) (step : Step) : step.resolve d a = step.resolve d b := by
  have hin {a : Anchor} (ha : ¬ a.consumes) : ¬ (a.consumes && (d.wordAt? a.cursor).isNone) = true :=
    fun hout => ha (Bool.and_eq_true_iff.mp hout).1
  rw [resolve, resolve, if_neg (hin ha), if_neg (hin hb), d.candidates_eq_candidatesAt,
    d.candidates_eq_candidatesAt, h, hspan]

/-- From an anchor outside the document a step finds nothing if the anchor has a text.  If it has none,
a step finds what it finds from the next word, and nothing if there is no such word. -/
theorem resolve_of_outside (step : Step) (d : Document) (a : Anchor)
    (h : d.wordAt? a.cursor = none) :
    (a.value ≠ "" → step.resolve d a = .notFound) ∧
    (a.value = "" →
      (∀ c, (d.wordAt? c).isSome → c < a.cursor) ∧ step.resolve d a = .notFound ∨
      ∃ c, d.NextWord a.cursor c ∧ step.resolve d a = step.resolve d { a with cursor := c }) := by
  constructor
  · intro hvalue
    have hout : (a.consumes && (d.wordAt? a.cursor).isNone) = true := by
      rw [h, Anchor.consumes_iff.mpr hvalue]
      rfl
    rw [resolve, if_pos hout]
  · intro hvalue
    have ha : ¬ a.consumes := fun hc => Anchor.consumes_iff.mp hc hvalue
    rcases d.forall_lt_or_exists_nextWord a.cursor with hall | ⟨c, hc⟩
    · exact Or.inl ⟨hall, resolve_of_remaining_eq_nil (Document.remaining_eq_nil hall) step⟩
    · have hmoved : ¬ ({ a with cursor := c } : Anchor).consumes := ha
      have hsame := Document.remaining_nextWord ha hc
      exact Or.inr ⟨c, hc, resolve_eq_of_remaining_eq ha hmoved rfl hsame.symm step⟩

/-- The first line of the statement has no eighth word.  An anchor there is refused if it has a text
and else goes on with the second line. -/
theorem resolve_of_outside_statement :
    Trail.statement.wordAt? ⟨0, 0, 0, 7⟩ = none ∧ ∀ (step : Step) (s : Span),
      step.resolve Trail.statement ⟨"Total", ⟨0, 0, 0, 7⟩, s⟩ = .notFound ∧
      step.resolve Trail.statement ⟨"", ⟨0, 0, 0, 7⟩, s⟩ =
        step.resolve Trail.statement ⟨"", ⟨0, 1, 0, 0⟩, s⟩ := by
  have hout : Trail.statement.wordAt? ⟨0, 0, 0, 7⟩ = none := rfl
  have hnext : Trail.statement.NextWord ⟨0, 0, 0, 7⟩ ⟨0, 1, 0, 0⟩ :=
    Document.nextWord_of_positionsFrom
      (show Trail.statement.positionsFrom ⟨0, 0, 0, 7⟩ = [⟨0, 1, 0, 0⟩, ⟨0, 1, 0, 1⟩] from rfl)
  have htext : "Total" ≠ "" := by decide
  have hbehind : ¬ (⟨0, 1, 0, 0⟩ : Cursor) < ⟨0, 0, 0, 7⟩ := by decide
  refine ⟨hout, fun step s => ⟨?_, ?_⟩⟩
  · obtain ⟨hrefused, _⟩ := resolve_of_outside step _ ⟨"Total", ⟨0, 0, 0, 7⟩, s⟩ hout
    exact hrefused htext
  · obtain ⟨_, hmoved⟩ := resolve_of_outside step _ ⟨"", ⟨0, 0, 0, 7⟩, s⟩ hout
    rcases hmoved rfl with ⟨hall, _⟩ | ⟨c, hc, hsame⟩
    · exact absurd (hall ⟨0, 1, 0, 0⟩ rfl) hbehind
    · rw [hnext.unique hc] at hsame
      exact hsame

/-- An anchor outside the document from which something is found. -/
theorem exists_found_from_outside :
    let a : Anchor := ⟨"", ⟨0, 0, 0, 7⟩, ⟨0, 0.5⟩⟩
    a.cursor ≠ .start ∧ Trail.statement.wordAt? a.cursor = none ∧
      ∃ step, Step.ofSpec {} ⟨1, .after, ".+", .word⟩ = .ok step ∧
        step.resolve Trail.statement a ≠ .notFound := by
  refine ⟨by decide, rfl, ?_⟩
  obtain ⟨step, hstep, hcursor⟩ := Trail.exists_ok_of_map_toOption
    (show (Step.ofSpec {} ⟨1, .after, ".+", .word⟩).toOption.map
      (fun s => (s.resolve Trail.statement ⟨"", ⟨0, 0, 0, 7⟩, ⟨0, 0.5⟩⟩).cursor?) =
      some (some ⟨0, 1, 0, 0⟩) by decide +kernel)
  refine ⟨step, hstep, fun hnone => ?_⟩
  rw [hnone] at hcursor
  cases hcursor

end Step

end LayoutTrail
