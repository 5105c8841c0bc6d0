import LayoutTrail.Json.Printer

/-!
# Numbers in their place

A number is the same token in front of anything that does not continue it.  Natural numbers of up to 64
bits are read back as they are printed; of floats this is not claimed, since the reader may miss a float
of many digits by one place.
-/

namespace LayoutTrail.Json

open Text (Symbol)

/-- Symbols that do not continue a number. -/
def Delimited (symbols : List Symbol) : Prop :=
  ∀ c rest, symbols = .char c :: rest → c.isDigit = false ∧ c ≠ '.' ∧ c ≠ 'e' ∧ c ≠ 'E'

theorem delimited_nil : Delimited [] := by
  intro c rest h
  cases h

theorem delimited_char {c : Char} {rest : List Symbol}
    (h : c.isDigit = false ∧ c ≠ '.' ∧ c ≠ 'e' ∧ c ≠ 'E') : Delimited (.char c :: rest) := by
  intro c' rest' he
  cases he
  exact h

/-- A token at which a text does not break. -/
def Token.Whole : Token → Prop
  | .brokenString _ => False
  | .broken _ => False
  | _ => True

/-- A token in front of more symbols. -/
def Lexeme.before (l : Lexeme) (rest : List Symbol) : Lexeme := ⟨l.token, l.rest ++ rest⟩

variable {rest : List Symbol}

theorem scanDigits_of_delimited (h : Delimited rest) : scanDigits rest = ([], rest) := by
  unfold scanDigits
  split
  next c rest =>
    have hc := (h c rest rfl).1
    rw [if_neg (by simp [hc])]
  next => rfl

theorem scanDigits_append (h : Delimited rest) (xs : List Symbol) :
    scanDigits (xs ++ rest) = ((scanDigits xs).1, (scanDigits xs).2 ++ rest) := by
  induction xs with
  | nil => exact scanDigits_of_delimited h
  | cons s xs ih =>
    cases s with
    | stray b => rfl
    | char c =>
      simp only [List.cons_append, scanDigits]
      split
      · rw [ih]
      · rfl

theorem scanSign_append {xs : List Symbol} (hne : xs ≠ []) :
    scanSign (xs ++ rest) = ((scanSign xs).1, (scanSign xs).2 ++ rest) := by
  obtain ⟨s, xs, rfl⟩ := List.exists_cons_of_ne_nil hne
  by_cases hplus : s = .char '+'
  · rw [hplus]
    rfl
  by_cases hminus : s = .char '-'
  · rw [hminus]
    rfl
  · have hother (ys : List Symbol) : scanSign (s :: ys) = (false, s :: ys) := by
      unfold scanSign
      split
      next h => exact absurd (List.cons.inj h).1 hplus
      next h => exact absurd (List.cons.inj h).1 hminus
      next => rfl
    rw [List.cons_append, hother, hother]
    rfl

theorem not_whole_missingDigits (symbols : List Symbol) : ¬ (missingDigits symbols).token.Whole := id

theorem scanExponent_append (h : Delimited rest) (n : Numeral) {xs : List Symbol}
    (hw : (scanExponent n xs).token.Whole) :
    scanExponent n (xs ++ rest) = (scanExponent n xs).before rest := by
  cases xs with
  | nil =>
    rw [List.nil_append]
    unfold scanExponent
    split
    next c tail =>
      obtain ⟨_, _, he, hE⟩ := h c tail rfl
      rw [if_neg (by simp [he, hE])]
      rfl
    next => rfl
  | cons s xs =>
    cases s with
    | stray b => rfl
    | char c =>
      simp only [List.cons_append, scanExponent] at hw ⊢
      split
      next hexp =>
        rw [if_pos hexp] at hw
        by_cases hne : xs = []
        · rw [hne] at hw
          exact absurd hw (not_whole_missingDigits _)
        · rw [scanSign_append hne, scanDigits_append h]
          dsimp only
          split
          next hmissing =>
            rw [if_pos hmissing] at hw
            exact absurd hw (not_whole_missingDigits _)
          next => rfl
      next => rfl

theorem scanFraction_append (h : Delimited rest) (n : Numeral) {xs : List Symbol}
    (hw : (scanFraction n xs).token.Whole) :
    scanFraction n (xs ++ rest) = (scanFraction n xs).before rest := by
  by_cases hpoint : ∃ tail, xs = .char '.' :: tail
  · obtain ⟨tail, rfl⟩ := hpoint
    simp only [List.cons_append, scanFraction, scanDigits_append h] at hw ⊢
    split
    next hmissing =>
      rw [if_pos hmissing] at hw
      exact absurd hw (not_whole_missingDigits _)
    next hdigits =>
      rw [if_neg hdigits] at hw
      exact scanExponent_append h _ hw
  · have hplain {ys : List Symbol} (hy : ¬ ∃ tail, ys = .char '.' :: tail) :
        scanFraction n ys = scanExponent n ys := by
      unfold scanFraction
      split
      next tail => exact absurd ⟨tail, rfl⟩ hy
      next => rfl
    have hpoint' : ¬ ∃ tail, xs ++ rest = .char '.' :: tail := by
      rintro ⟨tail, he⟩
      cases xs with
      | nil => exact (h '.' tail he).2.1 rfl
      | cons s xs => exact hpoint ⟨xs, by rw [(List.cons.inj he).1]⟩
    rw [hplain hpoint']
    rw [hplain hpoint] at hw ⊢
    exact scanExponent_append h n hw

theorem scanNumber_append (h : Delimited rest) (negative : Bool) {xs : List Symbol}
    (hw : (scanNumber negative xs).token.Whole) :
    scanNumber negative (xs ++ rest) = (scanNumber negative xs).before rest := by
  simp only [scanNumber, scanDigits_append h] at hw ⊢
  split
  next hmissing =>
    rw [if_pos hmissing] at hw
    exact absurd hw (not_whole_missingDigits _)
  next hwhole =>
    rw [if_neg hwhole] at hw
    split
    next hzero =>
      rw [if_pos hzero] at hw
      exact absurd hw id
    next hzero =>
      rw [if_neg hzero] at hw
      exact scanFraction_append h _ hw

theorem scanToken_of_isDigit {c : Char} (hc : c.isDigit = true) (xs : List Symbol) :
    scanToken (.char c) xs = scanNumber false (.char c :: xs) := by
  simp only [scanToken]
  split
  all_goals try exact absurd hc (by decide)
  exact if_pos hc

theorem tokens_gap {c : Char} (hc : isGap c = true) (xs : List Symbol) :
    tokens (.char c :: xs) = tokens xs := by
  rw [tokens]
  exact if_pos hc

theorem tokens_char {c : Char} (hc : isGap c = false) (xs : List Symbol) :
    tokens (.char c :: xs) =
      (scanToken (.char c) xs).token :: tokens (scanToken (.char c) xs).rest := by
  rw [tokens]
  exact if_neg (by simp [hc])

section Naturals

theorem appendDigits_eq (cs : List Char) (significand : Nat)
    (h : Nat.ofDigitChars 10 cs significand ≤ maxInteger) :
    appendDigits significand cs = (Nat.ofDigitChars 10 cs significand, 0) := by
  induction cs generalizing significand with
  | nil => rw [appendDigits, Nat.ofDigitChars_nil]
  | cons c cs ih =>
    rw [Nat.ofDigitChars_cons] at h ⊢
    have hle : 10 * significand + digitValue c ≤ Nat.ofDigitChars 10 cs (10 * significand +
        (c.toNat - '0'.toNat)) := by
      rw [Nat.ofDigitChars_eq_ofDigitChars_zero]
      have hpow : 0 < 10 ^ cs.length := Nat.pow_pos (by decide)
      exact Nat.le_add_right_of_le (Nat.le_mul_of_pos_left _ hpow)
    rw [appendDigits, if_pos (Nat.le_trans hle h)]
    exact ih _ h

/-- The digits of a number other than zero start with another digit. -/
theorem exists_toDigits_eq_cons {n : Nat} (hn : 0 < n) :
    ∃ c cs, Nat.toDigits 10 n = c :: cs ∧ c ≠ '0' := by
  induction n using Nat.strongRecOn with
  | _ n ih =>
    by_cases hlt : n < 10
    · have hdigit : ∀ k : Fin 10, 0 < k.val → k.val.digitChar ≠ '0' := by decide
      exact ⟨n.digitChar, [], Nat.toDigits_of_lt_base hlt, hdigit ⟨n, hlt⟩ hn⟩
    · obtain ⟨c, cs, he, hc⟩ := ih (n / 10) (by omega) (by omega)
      refine ⟨c, cs ++ [(n % 10).digitChar], ?_, hc⟩
      rw [Nat.toDigits_of_base_le (by decide) (by omega), he]
      rfl

theorem hasLeadingZero_toDigits (n : Nat) : hasLeadingZero (Nat.toDigits 10 n) = false := by
  by_cases hn : 0 < n
  · obtain ⟨c, cs, he, hc⟩ := exists_toDigits_eq_cons hn
    rw [he]
    unfold hasLeadingZero
    split
    next h => exact absurd (List.cons.inj h).1 hc
    next => rfl
  · rw [Nat.eq_zero_of_not_pos hn, Nat.toDigits_zero]
    rfl

theorem scanDigits_map {cs : List Char} (h : ∀ c ∈ cs, c.isDigit = true) :
    scanDigits (cs.map .char) = (cs, []) := by
  induction cs with
  | nil => rfl
  | cons c cs ih =>
    obtain ⟨hc, hcs⟩ := List.forall_mem_cons.mp h
    rw [List.map_cons, scanDigits_of_isDigit hc, ih hcs]

theorem value?_ofInt {n : Nat} (hn : n < UInt64.size) :
    (Numeral.ofInt n).value? = some (.integer n) := by
  have hle : Nat.ofDigitChars 10 (Nat.toDigits 10 n) 0 ≤ maxInteger := by
    rw [Nat.ofDigitChars_ten_toDigits, maxInteger]
    omega
  have hparts : (Numeral.ofInt n).wholeParts = (n, 0) := by
    simp only [Numeral.wholeParts, Numeral.ofInt, Decimal.digits, Int.natAbs_natCast,
      appendDigits_eq _ 0 hle, Nat.ofDigitChars_ten_toDigits]
    rfl
  have hsign : (Numeral.ofInt n).negative = false := by
    simp [Numeral.ofInt]
  rw [Numeral.value?, hparts]
  simp only [hsign]
  rfl

/-- A natural number of up to 64 bits is printed as the one token that stands for it. -/
theorem tokens_render_natCast {n : Nat} (hn : n < UInt64.size) :
    tokens ((Number.integer n).render.map .char) = [.number (.ok (.integer n))] := by
  have hrender : (Number.integer n).render = Nat.toDigits 10 n := by
    simp [Number.render, Numeral.render, Numeral.ofInt, Decimal.digits]
  have hall : ∀ c ∈ Nat.toDigits 10 n, c.isDigit = true := fun c hc =>
    Nat.isDigit_of_mem_toDigits (by decide) (by decide) hc
  have hvalue := value?_ofInt hn
  obtain ⟨c, cs, hcs⟩ := List.exists_cons_of_ne_nil (Nat.toDigits_ne_nil (n := n) (b := 10))
  have hnumeral : Numeral.ofInt n = ⟨false, c :: cs, none, none⟩ := by
    simp [Numeral.ofInt, Decimal.digits, hcs]
  have hzero := hasLeadingZero_toDigits n
  rw [hcs] at hall hzero
  have hscan : scanToken (.char c) (cs.map .char) = ⟨.number (.ok (.integer n)), []⟩ := by
    rw [scanToken_of_isDigit (hall c List.mem_cons_self), ← List.map_cons, scanNumber,
      scanDigits_map hall]
    simp only [hzero, scanFraction, scanExponent, numberLexeme, ← hnumeral, hvalue]
    rfl
  have hgap : isGap c = false := by
    have hc := hall c List.mem_cons_self
    by_cases h : isGap c = true
    · simp only [isGap, Bool.or_eq_true, beq_iff_eq] at h
      rcases h with ((rfl | rfl) | rfl) | rfl <;> exact absurd hc (by decide)
    · exact Bool.not_eq_true _ ▸ h
  rw [hrender, hcs, List.map_cons, tokens_char hgap, hscan]
  simp only [tokens]

end Naturals

end LayoutTrail.Json
