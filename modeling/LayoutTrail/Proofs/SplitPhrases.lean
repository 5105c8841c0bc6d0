import LayoutTrail.Proofs.Blocks
import LayoutTrail.Proofs.Checking

/-!
# Split phrases

A phrase that an anchor points into is found from the first word on that the anchor leaves.  The parts
are made in one place and the extent that `below` looks at in another; both cut the same phrase before
the same word.
-/

namespace LayoutTrail

namespace Anchor

variable {a : Anchor} {d : Document} {c : Cursor} {p : Phrase} {i j : Nat}

/-- The first word of the phrase at `c` that an anchor leaves is word `i`. -/
structure FirstLeft (a : Anchor) (d : Document) (c : Cursor) (i : Nat) : Prop where
  isLeft : c.withWord i ∈ a.remaining d
  least : ∀ j, c.withWord j ∈ a.remaining d → i ≤ j

/-- How many words of the phrase at `c` lie before what an anchor leaves. -/
def passed (a : Anchor) (c : Cursor) : Nat :=
  if c.phraseKey = a.cursor.phraseKey then a.cursor.word + (if a.consumes then 1 else 0) else 0

theorem FirstLeft.unique (h : a.FirstLeft d c i) (h' : a.FirstLeft d c j) : j = i := by
  have hij := h.least j h'.isLeft
  have hji := h'.least i h.isLeft
  omega

theorem withWord_mem_remaining_iff (hp : d.phraseAt? c = some p) : c.withWord i ∈ a.remaining d ↔
    i < p.words.length ∧ a.cursor ≤ c.withWord i ∧ (a.consumes → c.withWord i ≠ a.cursor) := by
  have hphrase : d.phraseAt? (c.withWord i) = some p := hp
  rw [Document.mem_remaining, Document.isSome_wordAt?_iff]
  refine and_congr_left fun _ => ⟨?_, fun hi => ⟨p, hphrase, hi⟩⟩
  rintro ⟨q, hq, hi⟩
  obtain rfl : p = q := Option.some.inj (hphrase.symm.trans hq)
  exact hi

/-- If an anchor leaves a word of a phrase, it leaves all words that it has not passed. -/
theorem withWord_mem_remaining_iff_passed (hp : d.phraseAt? c = some p)
    (hi : c.withWord i ∈ a.remaining d) (hj : j < p.words.length) :
    c.withWord j ∈ a.remaining d ↔ a.passed c ≤ j := by
  have hle := ((withWord_mem_remaining_iff hp).mp hi).2.1
  rw [withWord_mem_remaining_iff hp, passed, Ne, Cursor.eq_iff]
  rw [Cursor.le_iff] at hle ⊢
  simp only [Cursor.phraseKey_eq_iff, Cursor.withWord] at hle ⊢
  cases a.consumes with
  | false =>
    simp only [Bool.false_eq_true, false_implies, if_false, and_true]
    split <;> omega
  | true =>
    simp only [forall_const, if_true]
    split <;> omega

theorem FirstLeft.eq_passed (hp : d.phraseAt? c = some p) (h : a.FirstLeft d c i) :
    i = a.passed c := by
  have hlen := ((withWord_mem_remaining_iff hp).mp h.isLeft).1
  have hle := (withWord_mem_remaining_iff_passed hp h.isLeft hlen).mp h.isLeft
  -- the word behind those passed is left as well, so the first one is not behind it
  have hpassed : a.passed c < p.words.length := Nat.lt_of_le_of_lt hle hlen
  have hleft := (withWord_mem_remaining_iff_passed hp h.isLeft hpassed).mpr (Nat.le_refl _)
  have hge := h.least _ hleft
  omega

theorem phraseKey_eq_of_passed (h : 0 < a.passed c) : c.phraseKey = a.cursor.phraseKey := by
  rw [passed] at h
  split at h
  next hkey => exact hkey
  next => exact absurd h (Nat.lt_irrefl 0)

end Anchor

namespace Phrase

/-- `s` has the parts of a phrase before and from word `i` on: each has the texts of its words with
single spaces between them, and the box of the phrase but for the edge at which it was cut, which is
that of the word next to it. -/
structure PartsAt (p : Phrase) (i : Nat) (s : Segments) : Prop where
  firstText : s.first.text = joinWords (p.words.take i)
  secondText : s.second.text = joinWords (p.words.drop i)
  joined : s.first.text ++ " " ++ s.second.text = joinWords p.words
  firstQuad : ∃ w, p.words[i - 1]? = some w ∧ s.first.quad = ⟨p.quad.topLeft,
    ⟨w.quad.right, p.quad.topRight.y⟩, ⟨w.quad.right, p.quad.bottomRight.y⟩, p.quad.bottomLeft⟩
  secondQuad : ∃ w, p.words[i]? = some w ∧ s.second.quad = ⟨⟨w.quad.left, p.quad.topLeft.y⟩,
    p.quad.topRight, p.quad.bottomRight, ⟨w.quad.left, p.quad.bottomLeft.y⟩⟩

variable {p : Phrase} {i : Nat}

theorem exists_split?_eq (h0 : 0 < i) (hi : i < p.words.length) :
    ∃ s, p.split? i = some s ∧ p.PartsAt i s := by
  refine ⟨_, split?_eq h0 hi, ⟨rfl, rfl, ?_, ?_, ?_⟩⟩
  · have hfirst : p.words.take i ≠ [] :=
      List.ne_nil_of_length_pos (by rw [List.length_take]; omega)
    have hsecond : p.words.drop i ≠ [] :=
      List.ne_nil_of_length_pos (by rw [List.length_drop]; omega)
    have hjoin := joinWords_append hfirst hsecond
    rw [List.take_append_drop] at hjoin
    exact hjoin.symm
  · have hlast : i - 1 < p.words.length := by omega
    exact ⟨_, List.getElem?_eq_getElem hlast, rfl⟩
  · exact ⟨_, List.getElem?_eq_getElem hi, rfl⟩

end Phrase

namespace Candidate

variable {d : Document} {a : Anchor} {c : Cursor} {p : Phrase} {unit : TextUnit} {x : Candidate}

theorem exists_firstLeft_of_mem (h : x ∈ d.candidates .phrase a) : ∃ c p, x = phrase c p ∧
    d.phraseAt? c = some p ∧ c.word < p.words.length ∧ a.FirstLeft d c c.word := by
  obtain ⟨c, p, rfl, hp, hlen, hmem, hfirst⟩ := d.exists_phrase_of_mem_candidates h
  refine ⟨c, p, rfl, hp, hlen, hmem, fun j hj => ?_⟩
  apply Nat.le_of_not_lt
  intro hlt
  have hbefore : c.withWord j < c := c.withWord_lt hlt
  exact hfirst _ hj hbefore rfl

theorem exists_target_phrase (h : c.word < p.words.length) : ∃ m, (phrase c p).target = .phrase m ∧
    m.cursor = c.withWord (p.words.length - 1) ∧
    (c.word = 0 ∧ m.segments = none ∧ m.value = p.text ∧ m.quad = p.quad ∨
      0 < c.word ∧ ∃ s, m.segments = some s ∧ p.PartsAt c.word s ∧
        m.value = s.second.text ∧ m.quad = s.second.quad) := by
  simp only [target, Phrase.lastIndex?_eq h, Option.getD_some]
  rcases Nat.eq_zero_or_pos c.word with h0 | hpos
  · rw [h0, Phrase.split?_zero]
    exact ⟨_, rfl, rfl, Or.inl ⟨rfl, rfl, rfl, rfl⟩⟩
  · obtain ⟨s, hs, hparts⟩ := Phrase.exists_split?_eq hpos h
    rw [hs]
    exact ⟨_, rfl, rfl, Or.inr ⟨hpos, s, rfl, hparts, rfl, rfl⟩⟩

/-- The extent that a candidate is tested by is that of the box that it is found with. -/
theorem exists_quad?_target (h : x ∈ d.candidates unit a) :
    ∃ q, x.target.quad? = some q ∧ q.span = x.span := by
  have hs := d.standsAfter_of_mem_candidates h
  cases x with
  | word c w => exact ⟨w.quad, rfl, rfl⟩
  | phrase c p =>
    obtain ⟨_, hlen⟩ := hs.content
    obtain ⟨m, hm, _, hparts⟩ := exists_target_phrase hlen
    refine ⟨m.quad, by rw [hm]; rfl, ?_⟩
    rw [span, Phrase.spanFrom]
    rcases hparts with ⟨h0, _, _, hquad⟩ | ⟨hpos, s, _, hparts, _, hquad⟩
    · rw [hquad, if_pos h0]
      rfl
    · obtain ⟨w, hw, hsecond⟩ := hparts.secondQuad
      rw [hquad, hsecond, if_neg (Nat.ne_of_gt hpos), hw]
      rfl

end Candidate

/-- A phrase of three words side by side. -/
def termsPhrase : Phrase where
  text := "Net due 30"
  quad := .ofEdges 0 0 1 0.5
  words := [⟨"Net", .ofEdges 0 0 0.25 0.5⟩, ⟨"due", .ofEdges 0.25 0 0.5 0.5⟩,
    ⟨"30", .ofEdges 0.75 0 1 0.5⟩]

/-- A line with the phrase, and one with its last word alone. -/
def terms : Document := ⟨[⟨[⟨[termsPhrase]⟩, ⟨[.ofWords [⟨"30", .ofEdges 0.75 0.5 1 1⟩]]⟩]⟩]⟩

/-- The first word of the terms, used up. -/
def netAnchor : Anchor := ⟨"Net", .start, ⟨0, 0.25⟩⟩

namespace Step

variable {step : Step} {d : Document} {a : Anchor}

/-- A phrase is found in part exactly if the anchor has passed words of it, which are words of the
phrase that the anchor points into.  The parts are those before and from the first word on that is
left, and what is found is the second one. -/
theorem found_phrase_parts (hunit : step.unit = .phrase) (hfound : (step.resolve d a).isFound) :
    ∃ m p i, step.resolve d a = .phrase m ∧ d.phraseAt? m.cursor = some p ∧
      m.cursor.word + 1 = p.words.length ∧
      (∀ j, a.FirstLeft d m.cursor j ↔ j = i) ∧ i = a.passed m.cursor ∧
      (m.segments.isSome ↔ 0 < i) ∧
      (0 < i → m.cursor.phraseKey = a.cursor.phraseKey) ∧
      (m.segments = none → m.value = p.text ∧ m.quad = p.quad) ∧
      ∀ s, m.segments = some s → p.PartsAt i s ∧ m.value = s.second.text ∧
        m.quad = s.second.quad ∧
        (p.text = joinWords p.words → s.first.text ++ " " ++ s.second.text = p.text) := by
  obtain ⟨x, _, hx, he⟩ := exists_of_isFound hfound
  rw [hunit] at hx
  obtain ⟨c, p, rfl, hp, hlen, hfirst⟩ := Candidate.exists_firstLeft_of_mem hx
  obtain ⟨m, hm, hcursor, hparts⟩ := Candidate.exists_target_phrase hlen
  have hlast : m.cursor.word + 1 = p.words.length := by
    rw [hcursor, Cursor.word_withWord]
    omega
  -- the target is at the last word of the phrase, where the same words are left as at its first
  have hfirst' : a.FirstLeft d m.cursor c.word := by
    rw [hcursor]
    exact ⟨hfirst.isLeft, hfirst.least⟩
  have hp' : d.phraseAt? m.cursor = some p := by
    rw [hcursor]
    exact hp
  have hunique (j : Nat) : a.FirstLeft d m.cursor j ↔ j = c.word :=
    ⟨fun hj => hfirst'.unique hj, fun hj => hj ▸ hfirst'⟩
  have hpassed := hfirst'.eq_passed hp'
  have hkey : 0 < c.word → m.cursor.phraseKey = a.cursor.phraseKey :=
    fun hpos => Anchor.phraseKey_eq_of_passed (hpassed ▸ hpos)
  refine ⟨m, p, c.word, he.trans hm, hp', hlast, hunique, hpassed, ?_⟩
  rcases hparts with ⟨h0, hnone, hwhole⟩ | ⟨hpos, s, hs, hat, hvalue, hquad⟩
  · -- nothing is passed, so the phrase is whole
    have hsome : m.segments.isSome ↔ 0 < c.word := by
      rw [hnone, h0]
      decide
    refine ⟨hsome, hkey, fun _ => hwhole, ?_⟩
    intro s hs
    exact absurd (hnone.symm.trans hs).symm (Option.some_ne_none s)
  · have hsome : m.segments.isSome ↔ 0 < c.word := by
      rw [hs]
      exact ⟨fun _ => hpos, fun _ => rfl⟩
    refine ⟨hsome, hkey, ?_, ?_⟩
    · intro hnone
      exact absurd (hs.symm.trans hnone) (Option.some_ne_none s)
    · intro s' hs'
      obtain rfl : s = s' := Option.some.inj (hs.symm.trans hs')
      exact ⟨hat, hvalue, hquad, fun htext => hat.joined.trans htext.symm⟩

/-- What is left of the phrase after its first word are the two others, in a box that begins where the
second word does. -/
theorem found_phrase_parts_terms :
    ∃ step m s, Step.ofSpec {} ⟨1, .after, "Net.*", .phrase⟩ = .ok step ∧
      step.unit = .phrase ∧ (step.resolve terms netAnchor).isFound ∧
      step.resolve terms netAnchor = .phrase m ∧ m.segments = some s ∧
      s.first.text = "Net" ∧ m.value = "due 30" ∧ m.quad = .ofEdges 0.25 0 1 0.5 := by
  obtain ⟨step, hstep, hfound⟩ := Trail.exists_ok_of_map_toOption
    (show (Step.ofSpec {} ⟨1, .after, "Net.*", .phrase⟩).toOption.map (fun s =>
      (s.unit, (s.resolve terms netAnchor).cursor?)) = some (.phrase, some ⟨0, 0, 0, 2⟩) by
      decide +kernel)
  obtain ⟨hunit, hcursor⟩ := Prod.mk.inj hfound
  have hisFound := Target.isFound_of_cursor? hcursor
  obtain ⟨m, p, i, hm, hp, _, _, hi, hsome, _, _, hparts⟩ := found_phrase_parts hunit hisFound
  rw [hm] at hcursor
  obtain hc : m.cursor = ⟨0, 0, 0, 2⟩ := Option.some.inj hcursor
  rw [hc] at hp hi
  obtain rfl : termsPhrase = p := Option.some.inj hp
  obtain rfl : i = 1 := hi
  obtain ⟨s, hs⟩ := Option.isSome_iff_exists.mp (hsome.mpr Nat.one_pos)
  obtain ⟨hat, hvalue, hquad, _⟩ := hparts s hs
  refine ⟨step, m, s, hstep, hunit, hisFound, hm, hs, hat.firstText.trans (by decide),
    hvalue.trans (hat.secondText.trans (by decide)), ?_⟩
  obtain ⟨w, hw, hsecond⟩ := hat.secondQuad
  obtain rfl := Option.some.inj hw
  exact hquad.trans hsecond

/-- Under `below` what is found overlaps the anchor with the box that it is found with: every
candidate is tested by the extent of that box. -/
theorem found_below_overlaps (step : Step) (d : Document) (a : Anchor) :
    (∀ x ∈ d.candidates step.unit a, ∃ q, x.target.quad? = some q ∧ q.span = x.span) ∧
    (step.method = .below → (step.resolve d a).isFound →
      ∃ q, (step.resolve d a).quad? = some q ∧ a.span.overlaps q.span) := by
  refine ⟨fun x hx => Candidate.exists_quad?_target hx, fun hm hfound => ?_⟩
  obtain ⟨x, hx, hmem, he⟩ := exists_of_isFound hfound
  obtain ⟨q, hq, hspan⟩ := Candidate.exists_quad?_target hmem
  rw [choose_candidates] at hx
  have hqualifies := (List.mem_filter.mp (List.mem_of_getElem? hx)).2
  simp only [qualifies, hm, Bool.and_eq_true] at hqualifies
  refine ⟨q, he ▸ hq, ?_⟩
  rw [hspan]
  exact hqualifies.2.1

/-- What is left of the phrase begins at the right edge of its first word.  It is found below a wider
extent, and not below that word, which the whole phrase would overlap. -/
theorem found_below_overlaps_terms :
    ∃ step q, Step.ofSpec {} ⟨1, .below, ".+", .phrase⟩ = .ok step ∧ step.method = .below ∧
      (step.resolve terms { netAnchor with span := ⟨0, 0.5⟩ }).quad? = some q ∧
      (⟨0, 0.5⟩ : Span).overlaps q.span ∧ netAnchor.span.overlaps termsPhrase.quad.span ∧
      step.resolve terms netAnchor = .notFound := by
  obtain ⟨step, hstep, hfound⟩ := Trail.exists_ok_of_map_toOption
    (show (Step.ofSpec {} ⟨1, .below, ".+", .phrase⟩).toOption.map (fun s =>
      (s.method, (s.resolve terms { netAnchor with span := ⟨0, 0.5⟩ }).isFound,
        (s.resolve terms netAnchor).isFound)) = some (.below, true, false) by decide +kernel)
  obtain ⟨hm, hfound⟩ := Prod.mk.inj hfound
  obtain ⟨hwide, hnarrow⟩ := Prod.mk.inj hfound
  obtain ⟨_, hoverlaps⟩ := found_below_overlaps step terms { netAnchor with span := ⟨0, 0.5⟩ }
  obtain ⟨q, hq, hover⟩ := hoverlaps hm hwide
  have hwhole : netAnchor.span.overlaps termsPhrase.quad.span := by decide +kernel
  exact ⟨step, q, hstep, hm, hq, hover, hwhole, Target.eq_notFound_iff.mpr hnarrow⟩

end Step

end LayoutTrail
