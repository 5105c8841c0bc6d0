import LayoutTrail.Proofs.Checking
import LayoutTrail.Proofs.Pattern.Anchored

/-!
# What a step accepts

A step looks for its pattern in a text with anchors around it.  If the pattern is one by itself, the
step accepts the texts that the pattern matches as a whole.  Which patterns a step accepts is another
matter: since the anchors are put around the text of the pattern, and not around the pattern, a text
that is no pattern by itself may become one, and one that ends in a comment is one no longer.
-/

namespace LayoutTrail

open Pattern (Piece Denotes HidesClosing ClosesAnchors anchoredPiece readPiece)

namespace Step

variable {options : Options} {spec : StepSpec} {step : Step}

/-- A step is what the reading of its anchored pattern gives. -/
theorem exists_of_ofSpec (h : Step.ofSpec options spec = .ok step) :
    ∃ piece, readPiece options.ignoreCase (Pattern.anchoredText spec.pattern) = .ok piece ∧
      piece.Small ∧ piece.pattern = step.pattern := by
  unfold ofSpec at h
  split at h
  · cases hread : Pattern.readAnchored options.ignoreCase spec.pattern with
    | error e => simp only [hread] at h; cases h
    | ok p =>
      simp only [hread] at h
      obtain rfl := Except.ok.inj h
      exact Pattern.read_eq_ok_iff.mp hread
  · cases h

theorem exists_ofSpec_iff (hcount : 0 < spec.count.toNat) :
    (∃ step, Step.ofSpec options spec = .ok step) ↔
      ∃ piece, readPiece options.ignoreCase (Pattern.anchoredText spec.pattern) = .ok piece ∧
        piece.Small := by
  constructor
  · rintro ⟨step, hstep⟩
    obtain ⟨piece, hpiece, hsmall, _⟩ := exists_of_ofSpec hstep
    exact ⟨piece, hpiece, hsmall⟩
  · rintro ⟨piece, hpiece, hsmall⟩
    have hread : Pattern.readAnchored options.ignoreCase spec.pattern = .ok piece.pattern :=
      Pattern.read_eq_ok_iff.mpr ⟨piece, hpiece, hsmall, rfl⟩
    refine ⟨⟨spec.count.toNat, spec.method, spec.unit, piece.pattern, hcount⟩, ?_⟩
    rw [ofSpec, dif_pos hcount]
    simp only [hread]

/-- The step looks for the pattern with an anchor on either side. -/
theorem pattern_of_ofSpec {piece : Piece} (hstep : Step.ofSpec options spec = .ok step)
    (hpiece : readPiece options.ignoreCase spec.pattern = .ok piece) :
    step.pattern = (anchoredPiece piece).pattern := by
  obtain ⟨piece', hpiece', _, hpattern⟩ := exists_of_ofSpec hstep
  rw [← hpattern, Pattern.eq_anchoredPiece hpiece hpiece']

/-- With a pattern that is one by itself, a step accepts the texts that the pattern matches from
the first to the last character, whatever alternatives, anchors and flags there are in it. -/
theorem accepts_iff_matchesWhole {p : Pattern} (hstep : Step.ofSpec options spec = .ok step)
    (hp : Denotes options.ignoreCase spec.pattern p) (text : String) :
    step.accepts text = true ↔ p.MatchesWhole text.toList := by
  obtain ⟨piece, hpiece, rfl⟩ := hp
  rw [accepts, Pattern.occursIn_iff, pattern_of_ofSpec hstep hpiece,
    Pattern.occurs_anchoredPiece_iff]

/-- One of two alternatives matches a text with the end of its line, and neither a longer text. -/
theorem accepts_iff_matchesWhole_total_or_due :
    ∃ step p, Step.ofSpec {} ⟨1, .after, "total|(?s:due.)", .word⟩ = .ok step ∧
      Pattern.read {} "total|(?s:due.)" = .ok p ∧ p.MatchesWhole "due\n".toList ∧
      ¬p.MatchesWhole "due now".toList := by
  obtain ⟨step, hstep, haccepts⟩ := Trail.exists_ok_of_map_toOption
    (show (Step.ofSpec {} ⟨1, .after, "total|(?s:due.)", .word⟩).toOption.map
      (fun step => (step.accepts "due\n", step.accepts "due now")) = some (true, false) by
        decide +kernel)
  obtain ⟨hdue, hlonger⟩ := Prod.mk.inj haccepts
  obtain ⟨p, hread, _⟩ := Trail.exists_ok_of_map_toOption
    (show (Pattern.read {} "total|(?s:due.)").toOption.map (fun _ => ()) = some () by
      decide +kernel)
  have hp : Denotes false "total|(?s:due.)" p := Pattern.denotes_of_read hread
  refine ⟨step, p, hstep, hread, (accepts_iff_matchesWhole hstep hp "due\n").mp hdue, ?_⟩
  intro hwhole
  rw [(accepts_iff_matchesWhole hstep hp "due now").mpr hwhole] at hlonger
  cases hlonger

/-! ## Which patterns are accepted -/

/-- A pattern by itself is refused only if it is too large or too deep between the anchors, or if it
ends in a comment that goes on over the closing anchor; once accepted, it has to match whole texts.
What is no pattern by itself is accepted only if it closes a group that it has not opened, which
then is the group of the anchors. -/
theorem ofSpec_patterns (options : Options) (spec : StepSpec) (hcount : 0 < spec.count.toNat) :
    (∀ piece, readPiece options.ignoreCase spec.pattern = .ok piece →
      ((∃ step, Step.ofSpec options spec = .ok step) ↔
        ¬HidesClosing options.ignoreCase spec.pattern ∧ (anchoredPiece piece).Small) ∧
      ∀ step, Step.ofSpec options spec = .ok step → ∀ text : String,
        step.accepts text = true ↔ piece.pattern.MatchesWhole text.toList) ∧
    (∀ step, Step.ofSpec options spec = .ok step →
      (∃ p, Denotes options.ignoreCase spec.pattern p) ∨
        ClosesAnchors options.ignoreCase spec.pattern) ∧
    ∀ e, Step.ofSpec options spec = .error e → ∃ fault, e = .pattern spec.pattern fault := by
  refine ⟨fun piece hpiece => ⟨?_, fun step hstep text => ?_⟩, fun step hstep => ?_, fun e he => ?_⟩
  · rw [exists_ofSpec_iff hcount]
    exact Pattern.exists_small_anchoredText_iff hpiece
  · rw [accepts, Pattern.occursIn_iff, pattern_of_ofSpec hstep hpiece,
      Pattern.occurs_anchoredPiece_iff]
  · obtain ⟨piece, hpiece, _⟩ := exists_of_ofSpec hstep
    exact Pattern.denotes_or_closesAnchors hpiece
  · rw [ofSpec, dif_pos hcount] at he
    cases hread : Pattern.readAnchored options.ignoreCase spec.pattern with
    | ok p =>
      simp only [hread] at he
      cases he
    | error fault =>
      simp only [hread] at he
      exact ⟨fault, (Except.error.inj he).symm⟩

/-- A pattern that closes the group of the anchors and opens another in its place. -/
theorem ofSpec_patterns_unbalanced :
    (∃ step, Step.ofSpec {} ⟨1, .after, "a)(b", .word⟩ = .ok step) ∧
      ClosesAnchors false "a)(b" := by
  obtain ⟨step, hstep, _⟩ := Trail.exists_ok_of_map_toOption
    (show (Step.ofSpec {} ⟨1, .after, "a)(b", .word⟩).toOption.map (fun _ => ()) = some () by
      decide +kernel)
  obtain ⟨_, haccepted, _⟩ := ofSpec_patterns {} ⟨1, .after, "a)(b", .word⟩ (by decide)
  have hnone : ¬∃ p, Denotes false "a)(b" p := Pattern.not_denotes_of_isNone (by decide +kernel)
  exact ⟨⟨step, hstep⟩, (haccepted step hstep).resolve_left hnone⟩

/-- Texts that are no patterns are accepted, one of them even where neither of its alternatives
matches the whole text; and a pattern is refused for the comment at its end. -/
theorem ofSpec_not_iff_denotes :
    ((∃ step, Step.ofSpec {} ⟨1, .after, "a)(b", .word⟩ = .ok step) ∧
      ¬∃ p, Denotes false "a)(b" p) ∧
    ((∃ step, Step.ofSpec {} ⟨1, .after, "a)|(?:b", .word⟩ = .ok step ∧ step.accepts "ax" = true) ∧
      ¬∃ p, Denotes false "a)|(?:b" p) ∧
    (∃ p, Pattern.read {} "(?x)a #c" = .ok p) ∧
      ¬∃ step, Step.ofSpec {} ⟨1, .after, "(?x)a #c", .word⟩ = .ok step := by
  have hsome {ε α : Type} {e : Except ε α} (h : e.toOption.map (fun _ => ()) = some ()) :
      ∃ x, e = .ok x := by
    obtain ⟨x, hx, _⟩ := Trail.exists_ok_of_map_toOption h
    exact ⟨x, hx⟩
  refine ⟨⟨hsome (by decide +kernel), ?_⟩, ⟨?_, ?_⟩, hsome (by decide +kernel), ?_⟩
  · exact Pattern.not_denotes_of_isNone (by decide +kernel)
  · exact Trail.exists_ok_of_map_toOption (by decide +kernel)
  · exact Pattern.not_denotes_of_isNone (by decide +kernel)
  · rintro ⟨step, hstep⟩
    have hnone : (Step.ofSpec {} ⟨1, .after, "(?x)a #c", .word⟩).toOption.isNone = true := by
      decide +kernel
    rw [hstep] at hnone
    cases hnone

end Step

end LayoutTrail
