import LayoutTrail.Proofs.Checking

/-!
# The search with its bounds

The search looks up words by their index, cuts the words of a phrase in two, asks for the last of them
and counts down from the count of a step.  Here it is written with accesses that fail out of bounds,
one position of the walk after the other.  None of them ever fails: the walk visits words only, however
far outside the document the anchor is, so a phrase has the word that it is met at.
-/

namespace LayoutTrail

/-- An access out of bounds. -/
inductive Overrun
  /-- A word that a phrase does not have. -/
  | word (i : Nat)
  /-- The words from one index to another, of which a phrase does not have all. -/
  | words (first last : Nat)
  /-- The last word of a phrase without words. -/
  | lastWord
  /-- One less than zero. -/
  | belowZero
  deriving DecidableEq, Repr

def Overrun.oneLess : Nat → Except Overrun Nat
  | 0 => .error .belowZero
  | n + 1 => .ok n

namespace Phrase

variable {p : Phrase} {i j : Nat}

def guardedWord (p : Phrase) (i : Nat) : Except Overrun Word :=
  match p.words[i]? with
  | some w => .ok w
  | none => .error (.word i)

/-- The text of the words from `i` up to `j`. -/
def guardedText (p : Phrase) (i j : Nat) : Except Overrun String :=
  if i ≤ j ∧ j ≤ p.words.length then .ok (joinWords ((p.words.take j).drop i))
  else .error (.words i j)

def guardedLast (p : Phrase) : Except Overrun Nat :=
  match p.lastIndex? with
  | some i => .ok i
  | none => .error .lastWord

/-- The extent from word `i` on. -/
def guardedSpan (p : Phrase) (i : Nat) : Except Overrun Span :=
  if 0 < i then do
    let w ← p.guardedWord i
    .ok ⟨w.quad.left, p.quad.right⟩
  else .ok ⟨p.quad.left, p.quad.right⟩

/-- The parts before and from word `i` on, unless one is empty. -/
def guardedSplit (p : Phrase) (i : Nat) : Except Overrun (Option Segments) :=
  if i = 0 ∨ p.words.length ≤ i then .ok none
  else do
    let last ← p.guardedWord (← Overrun.oneLess i)
    let next ← p.guardedWord i
    let before ← p.guardedText 0 i
    let rest ← p.guardedText i p.words.length
    .ok (some ⟨⟨p.quad.withRight last.quad.right, before⟩, ⟨p.quad.withLeft next.quad.left, rest⟩⟩)

theorem guardedWord_eq (h : i < p.words.length) : p.guardedWord i = .ok p.words[i] := by
  rw [guardedWord, List.getElem?_eq_getElem h]

theorem guardedText_eq (hij : i ≤ j) (hj : j ≤ p.words.length) :
    p.guardedText i j = .ok (joinWords ((p.words.take j).drop i)) := if_pos ⟨hij, hj⟩

theorem guardedLast_eq (h : i < p.words.length) : p.guardedLast = .ok (p.words.length - 1) := by
  rw [guardedLast, lastIndex?_eq h]

/-- Where the phrase has a word, its extent from there on is that of the search. -/
theorem guardedSpan_eq (h : i < p.words.length) : p.guardedSpan i = .ok (p.spanFrom i) := by
  rw [guardedSpan, spanFrom]
  by_cases h0 : i = 0
  · have hpos : ¬ 0 < i := by omega
    rw [if_neg hpos, if_pos h0]
  · rw [if_pos (Nat.pos_of_ne_zero h0), if_neg h0, guardedWord_eq h, List.getElem?_eq_getElem h]
    rfl

theorem guardedSplit_eq (h : i < p.words.length) : p.guardedSplit i = .ok (p.split? i) := by
  rw [guardedSplit]
  cases i with
  | zero => rfl
  | succ k =>
    have hk : k < p.words.length := by omega
    have hcut : ¬ (k + 1 = 0 ∨ p.words.length ≤ k + 1) := by omega
    have hbefore : p.guardedText 0 (k + 1) = .ok (p.textBefore (k + 1)) :=
      guardedText_eq (Nat.zero_le _) (Nat.le_of_lt h)
    have hrest : p.guardedText (k + 1) p.words.length = .ok (p.textFrom (k + 1)) := by
      rw [guardedText_eq (Nat.le_of_lt h) (Nat.le_refl _), List.take_length]
      rfl
    rw [if_neg hcut, split?_eq (Nat.succ_pos k) h, Overrun.oneLess]
    simp only [bind, Except.bind, guardedWord_eq h, guardedWord_eq hk, hbefore, hrest]
    rfl

end Phrase

namespace Candidate

def guardedTarget : Candidate → Except Overrun Target
  | word c w => .ok (.word ⟨w.text, w.quad, c⟩)
  | phrase c p => do
    let cursor := c.withWord (← p.guardedLast)
    match ← p.guardedSplit c.word with
    | some s => .ok (.phrase ⟨s.second.text, s.second.quad, cursor, some s⟩)
    | none => .ok (.phrase ⟨p.text, p.quad, cursor, none⟩)

/-- A candidate that has the word at its position. -/
def Reaches : Candidate → Prop
  | word _ _ => True
  | phrase c p => c.word < p.words.length

theorem guardedTarget_eq {x : Candidate} (h : x.Reaches) : x.guardedTarget = .ok x.target := by
  cases x with
  | word c w => rfl
  | phrase c p =>
    have hlen : c.word < p.words.length := h
    rw [guardedTarget, target, Phrase.guardedLast_eq hlen, Phrase.guardedSplit_eq hlen,
      Phrase.lastIndex?_eq hlen]
    simp only [bind, Except.bind, Option.getD_some]
    cases p.split? c.word <;> rfl

-- were a phrase met behind its words, its extent could not be told, nor where it ends if it has none
example : (⟨"Net", {}, [⟨"Net", {}⟩]⟩ : Phrase).guardedSpan 1 = .error (.word 1) ∧
    (phrase .start ⟨"Net", {}, []⟩).guardedTarget = .error .lastWord := ⟨rfl, rfl⟩

end Candidate

/-- The candidate that a position of the walk makes, with its extent; `last` is the phrase met
before. -/
def Document.guardedMeet (d : Document) (unit : TextUnit) (last : Option (Nat × Nat × Nat))
    (c : Cursor) : Except Overrun (Option (Candidate × Span)) :=
  match unit, d.phraseAt? c with
  | _, none => .ok none
  | .word, some p => .ok (p.words[c.word]?.map fun w => (.word c w, w.quad.span))
  | .phrase, some p =>
    if last = some c.phraseKey then .ok none
    else do
      let span ← p.guardedSpan c.word
      .ok (some (.phrase c p, span))

namespace Step

/-- Whether a candidate with an extent qualifies behind one in `line`. -/
def qualifiesBehind (step : Step) (reference : Span) (line : Option (Nat × Nat)) (x : Candidate)
    (span : Span) : Bool :=
  step.accepts x.text &&
    match step.method with
    | .after => true
    | .below => line != some x.cursor.lineKey && reference.overlaps span

/-- Walks on along positions until `n` more candidates than one have qualified; `line` is the line of
the last one that did. -/
def guardedSearch (step : Step) (d : Document) (reference : Span) :
    Nat → Option (Nat × Nat) → Option (Nat × Nat × Nat) → List Cursor →
      Except Overrun (Option Candidate)
  | _, _, _, [] => .ok none
  | n, line, last, c :: rest => do
    match ← d.guardedMeet step.unit last c with
    | none => step.guardedSearch d reference n line last rest
    | some (x, span) =>
      if step.qualifiesBehind reference line x span then
        match n with
        | 0 => .ok (some x)
        | n + 1 => step.guardedSearch d reference n (some x.cursor.lineKey) (some c.phraseKey) rest
      else step.guardedSearch d reference n line (some c.phraseKey) rest

def guardedResolve (step : Step) (d : Document) (a : Anchor) : Except Overrun Target :=
  if a.consumes && (d.wordAt? a.cursor).isNone then .ok .notFound
  else do
    let n ← Overrun.oneLess step.count
    let positions := d.positionsFrom a.cursor
    match ← step.guardedSearch d a.span n none none
      (if a.consumes then positions.filter (· ≠ a.cursor) else positions) with
    | some x => x.guardedTarget
    | none => .ok .notFound

end Step

namespace Document

variable {d : Document} {c : Cursor}

/-- At a position that names a word nothing is out of bounds: it makes no candidate, or the next one,
with its extent. -/
theorem guardedMeet_cases (unit : TextUnit) (last : Option (Nat × Nat × Nat))
    (h : (d.wordAt? c).isSome) :
    d.guardedMeet unit last c = .ok none ∧
        (∀ cs, d.candidatesAt unit last (c :: cs) = d.candidatesAt unit last cs) ∨
      ∃ x, d.guardedMeet unit last c = .ok (some (x, x.span)) ∧ x.cursor = c ∧
        ∀ cs, d.candidatesAt unit last (c :: cs) =
          x :: d.candidatesAt unit (some c.phraseKey) cs := by
  obtain ⟨p, hp, hlen⟩ := isSome_wordAt?_iff.mp h
  cases unit with
  | word =>
    have hw : d.wordAt? c = some p.words[c.word] := by
      simp only [wordAt?, hp, Option.bind_eq_bind, Option.bind_some]
      exact List.getElem?_eq_getElem hlen
    refine Or.inr ⟨.word c p.words[c.word], ?_, rfl, fun cs => ?_⟩
    · simp only [guardedMeet, hp, List.getElem?_eq_getElem hlen]
      rfl
    · -- words are met one by one, whatever phrase is remembered
      rw [candidatesAt_word, candidatesAt_word, offered, List.filterMap_cons, hw]
      rfl
  | phrase =>
    by_cases hl : last = some c.phraseKey
    · refine Or.inl ⟨?_, fun cs => ?_⟩
      · simp only [guardedMeet, hp, if_pos hl]
      · simp only [candidatesAt, hp, if_pos hl]
    · refine Or.inr ⟨.phrase c p, ?_, rfl, fun cs => ?_⟩
      · simp only [guardedMeet, hp, if_neg hl, Phrase.guardedSpan_eq hlen]
        rfl
      · simp only [candidatesAt, hp, if_neg hl]

/-- The walk visits words only, with or without the position that the anchor has used up. -/
theorem isSome_wordAt?_of_mem_walk {a : Anchor}
    (h : c ∈ if a.consumes then (d.positionsFrom a.cursor).filter (· ≠ a.cursor)
      else d.positionsFrom a.cursor) : (d.wordAt? c).isSome := by
  have hwalk : c ∈ d.positionsFrom a.cursor := by
    split at h
    next => exact (List.mem_filter.mp h).1
    next => exact h
  exact (mem_positionsFrom.mp hwalk).1

/-- A candidate has the word that it is met at. -/
theorem reaches_of_mem_candidates {unit : TextUnit} {a : Anchor} {x : Candidate}
    (h : x ∈ d.candidates unit a) : x.Reaches := by
  have hs := d.standsAfter_of_mem_candidates h
  cases x with
  | word c w => trivial
  | phrase c p => exact hs.content.2

end Document

namespace Step

variable {step : Step} {d : Document} {a : Anchor}

theorem choose_cons (step : Step) (reference : Span) (n : Nat) (line : Option (Nat × Nat))
    (x : Candidate) (xs : List Candidate) :
    step.choose reference n line (x :: xs) =
      if step.qualifiesBehind reference line x x.span then
        if n ≤ 1 then some x else step.choose reference (n - 1) (some x.cursor.lineKey) xs
      else step.choose reference n line xs := rfl

/-- Along positions that name words the walk finds what is chosen among their candidates. -/
theorem guardedSearch_eq (reference : Span) (n : Nat) (line : Option (Nat × Nat))
    (last : Option (Nat × Nat × Nat)) {cs : List Cursor} (h : ∀ c ∈ cs, (d.wordAt? c).isSome) :
    step.guardedSearch d reference n line last cs =
      .ok (step.choose reference (n + 1) line (d.candidatesAt step.unit last cs)) := by
  induction cs generalizing n line last with
  | nil =>
    rw [guardedSearch]
    rfl
  | cons c cs ih =>
    obtain ⟨hc, hcs⟩ := List.forall_mem_cons.mp h
    rw [guardedSearch]
    rcases Document.guardedMeet_cases step.unit last hc with
      ⟨hmeet, hmade⟩ | ⟨x, hmeet, rfl, hmade⟩
    · rw [hmeet, hmade]
      exact ih n line last hcs
    · rw [hmeet, hmade, choose_cons]
      simp only [bind, Except.bind]
      split
      · cases n with
        | zero => rfl
        | succ n =>
          have hmore : ¬ n + 1 + 1 ≤ 1 := by omega
          rw [if_neg hmore]
          exact ih n _ _ hcs
      · exact ih n line _ hcs

/-- What a step finds is found without any access out of bounds. -/
theorem guardedResolve_eq (step : Step) (d : Document) (a : Anchor) :
    step.guardedResolve d a = .ok (step.resolve d a) := by
  rw [guardedResolve, resolve]
  split
  next => rfl
  next =>
    obtain ⟨n, hn⟩ := Nat.exists_eq_add_one.mpr step.count_pos
    have hsearch : step.guardedSearch d a.span n none none
        (if a.consumes then (d.positionsFrom a.cursor).filter (· ≠ a.cursor)
          else d.positionsFrom a.cursor) =
        .ok (step.choose a.span step.count none (d.candidates step.unit a)) := by
      rw [hn]
      exact guardedSearch_eq a.span n none none fun c hc => Document.isSome_wordAt?_of_mem_walk hc
    rw [hn, Overrun.oneLess]
    simp only [bind, Except.bind]
    rw [hsearch, ← hn]
    cases hx : step.choose a.span step.count none (d.candidates step.unit a) with
    | none => rfl
    | some x =>
      have hmem : x ∈ d.candidates step.unit a := mem_of_choose hx
      exact Candidate.guardedTarget_eq (Document.reaches_of_mem_candidates hmem)

theorem count_of_ofSpec {options : Options} {spec : StepSpec}
    (h : Step.ofSpec options spec = .ok step) : step.count = spec.count.toNat := by
  unfold ofSpec at h
  split at h
  · split at h
    · obtain rfl := Except.ok.inj h
      rfl
    · cases h
  · cases h

/-- Of a step that was checked the count is no zero to subtract from.  At every phrase that may be found
from an anchor, whatever the document and the anchor are, the word that its extent and its parts are
made from is there, and so are the word before it, all words before and behind it and the last one.  So
what the step finds is found without an access out of bounds. -/
theorem resolve_within_bounds {options : Options} {spec : StepSpec}
    (h : Step.ofSpec options spec = .ok step) :
    (∃ n, Overrun.oneLess spec.count.toNat = .ok n ∧ step.count = n + 1) ∧
    ∀ (d : Document) (a : Anchor),
      (∀ unit c p, .phrase c p ∈ d.candidates unit a → c.word < p.words.length ∧
        p.guardedSpan c.word = .ok (p.spanFrom c.word) ∧
        p.guardedSplit c.word = .ok (p.split? c.word) ∧
        p.guardedLast = .ok (p.words.length - 1)) ∧
      step.guardedResolve d a = .ok (step.resolve d a) := by
  constructor
  · obtain ⟨n, hn⟩ := Nat.exists_eq_add_one.mpr step.count_pos
    rw [← count_of_ofSpec h, hn]
    exact ⟨n, rfl, rfl⟩
  · intro d a
    refine ⟨fun unit c p hmem => ?_, step.guardedResolve_eq d a⟩
    have hlen : c.word < p.words.length := Document.reaches_of_mem_candidates hmem
    exact ⟨hlen, Phrase.guardedSpan_eq hlen, Phrase.guardedSplit_eq hlen,
      Phrase.guardedLast_eq hlen⟩

/-- From an anchor inside a phrase its rest is found, and from one far outside the document the whole
phrase; the phrase without words before it is never met. -/
theorem resolve_within_bounds_ragged :
    let d : Document := ⟨[⟨[]⟩, ⟨[⟨[]⟩, ⟨[⟨"Net", {}, []⟩,
      ⟨"Net", {}, [⟨"Net", {}⟩, ⟨"due", {}⟩, ⟨"30", {}⟩]⟩]⟩]⟩]⟩
    ∃ step, Step.ofSpec {} ⟨1, .after, "Net", .phrase⟩ = .ok step ∧
      (step.guardedResolve d ⟨"Net", ⟨1, 1, 1, 0⟩, ⟨0, 1⟩⟩).toOption.map Target.value =
        some "due 30" ∧
      (step.guardedResolve d ⟨"", ⟨0, 9, 0, 7⟩, ⟨1, 0⟩⟩).toOption.map Target.value = some "Net" := by
  intro d
  obtain ⟨step, hstep, hfound⟩ := Trail.exists_ok_of_map_toOption
    (show (Step.ofSpec {} ⟨1, .after, "Net", .phrase⟩).toOption.map (fun s =>
      ((s.resolve d ⟨"Net", ⟨1, 1, 1, 0⟩, ⟨0, 1⟩⟩).value,
        (s.resolve d ⟨"", ⟨0, 9, 0, 7⟩, ⟨1, 0⟩⟩).value)) = some ("due 30", "Net") by
      decide +kernel)
  obtain ⟨hinside, houtside⟩ := Prod.mk.inj hfound
  obtain ⟨_, hbounds⟩ := resolve_within_bounds hstep
  obtain ⟨_, hrest⟩ := hbounds d ⟨"Net", ⟨1, 1, 1, 0⟩, ⟨0, 1⟩⟩
  obtain ⟨_, hwhole⟩ := hbounds d ⟨"", ⟨0, 9, 0, 7⟩, ⟨1, 0⟩⟩
  refine ⟨step, hstep, ?_, ?_⟩
  · rw [hrest]
    exact congrArg some hinside
  · rw [hwhole]
    exact congrArg some houtside

end Step

namespace Trail

variable {d : Document}

/-- Takes steps from an anchor on, up to the first that finds nothing; `found` is what the step before
them has found. -/
def guardedFollow (d : Document) (a : Anchor) (found : Target) : List Step → Except Overrun Target
  | [] => .ok found
  | step :: rest => do
    let found ← step.guardedResolve d a
    match found.anchor? with
    | none => .ok .notFound
    | some next => guardedFollow d next found rest

theorem guardedFollow_cons (a : Anchor) (found : Target) (step : Step) (rest : List Step) :
    guardedFollow d a found (step :: rest) = .ok (follow d a (step :: rest)) := by
  induction rest generalizing a found step with
  | nil =>
    rw [guardedFollow, step.guardedResolve_eq d a, follow_singleton]
    simp only [bind, Except.bind]
    cases hnext : (step.resolve d a).anchor? with
    | none => rw [Target.anchor?_eq_none_iff.mp hnext]
    | some next => rfl
  | cons step' rest ih =>
    rw [guardedFollow, step.guardedResolve_eq d a]
    simp only [bind, Except.bind]
    cases hnext : (step.resolve d a).anchor? with
    | none => rw [follow_cons_of_notFound (Target.anchor?_eq_none_iff.mp hnext)]
    | some next =>
      rw [follow_cons_of_anchor? hnext (List.cons_ne_nil step' rest)]
      exact ih next _ step'

/-- No step of a trail leaves the bounds either, whatever the steps before it have found. -/
theorem guardedFollow_eq (t : Trail) (d : Document) (a : Anchor) :
    guardedFollow d a .notFound t.steps = .ok (t.resolveFrom d a) := by
  rw [resolveFrom]
  cases hsteps : t.steps with
  | nil => exact absurd hsteps t.steps_ne_nil
  | cons step rest => exact guardedFollow_cons a .notFound step rest

end Trail

end LayoutTrail
