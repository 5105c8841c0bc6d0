import LayoutTrail.Json.Printer

/-!
# Quoted texts in their place

A text in quotes is scanned as one token, whatever characters it holds.
-/

namespace LayoutTrail.Json

open Text (Symbol)

theorem StringState.push_eq {st : StringState} (h : st.leading = none) (c : Char) :
    st.push c = { st with chars := c :: st.chars } := by
  simp [push, h]

theorem hexValue?_lowerDigit : ∀ n : Fin 32,
    hexValue? [.char '0', .char '0', .char (lowerDigit (n / 16)), .char (lowerDigit (n % 16))] =
      some n.val := by
  decide

/-- A control character that has no letter is escaped by its code. -/
theorem scanString_code {st : StringState} (h : st.leading = none) {c : Char} (hc : c.toNat < 0x20)
    (rest : List Symbol) :
    scanString st (['\\', 'u', '0', '0', lowerDigit (c.toNat / 16),
      lowerDigit (c.toNat % 16)].map .char ++ rest) = scanString (st.push c) rest := by
  have hhex := hexValue?_lowerDigit ⟨c.toNat, hc⟩
  have hunit : st.pushUnit c.toNat = st.push c := by
    rw [StringState.push_eq h, StringState.pushUnit, h]
    dsimp only
    rw [if_neg (by simp; omega), if_neg (by simp; omega), Char.ofNat_toNat]
  simp only [List.map_cons, List.map_nil, List.cons_append, List.nil_append]
  rw [scanString, if_neg (by decide), if_neg (by decide), if_pos (by decide), hhex]
  dsimp only
  rw [hunit]

/-- A character that needs no escape stands for itself. -/
theorem scanString_plain (st : StringState) {c : Char} (hquote : c ≠ '"') (hslash : c ≠ '\\')
    (hc : ¬ c.toNat < 0x20) (rest : List Symbol) :
    scanString st (.char c :: rest) = scanString (st.push c) rest := by
  rw [scanString.eq_def]
  dsimp only
  rw [if_neg (by simp [hquote]), if_neg hc, if_neg (by simp [hslash])]

theorem scanString_quote (st : StringState) (rest : List Symbol) :
    scanString st (.char '"' :: rest) = ⟨.string st.close, rest⟩ := by
  rw [scanString.eq_def]
  rfl

/-- An escaped character is scanned as that character. -/
theorem scanString_escapedChar {st : StringState} (h : st.leading = none) (c : Char)
    (rest : List Symbol) :
    scanString st ((escapedChar c).map .char ++ rest) = scanString (st.push c) rest := by
  unfold escapedChar
  split
  case h_8 =>
    split
    next hc => exact scanString_code h hc rest
    next hc => exact scanString_plain st ‹_› ‹_› hc rest
  all_goals rfl

theorem scanString_flatMap {st : StringState} (h : st.leading = none) (cs : List Char)
    (rest : List Symbol) :
    scanString st ((cs.flatMap escapedChar).map .char ++ rest) =
      scanString { st with chars := cs.reverse ++ st.chars } rest := by
  induction cs generalizing st with
  | nil => rfl
  | cons c cs ih =>
    rw [List.flatMap_cons, List.map_append, List.append_assoc, scanString_escapedChar h,
      StringState.push_eq h, @ih { st with chars := c :: st.chars } h]
    simp only [List.reverse_cons, List.append_assoc, List.singleton_append]

/-- A text in quotes is one token, and what follows it is left. -/
theorem scanToken_quotedChars (s : String) (rest : List Symbol) :
    scanToken (.char '"') (((s.toList.flatMap escapedChar) ++ ['"']).map .char ++ rest) =
      ⟨.string (.ok s), rest⟩ := by
  have hclose : StringState.close { chars := s.toList.reverse ++ [] } = .ok s := by
    rw [List.append_nil, StringState.close, List.reverse_reverse, String.ofList_toList]
    rfl
  change scanString {} _ = _
  rw [List.map_append, List.append_assoc, scanString_flatMap rfl, List.map_singleton,
    List.singleton_append, scanString_quote, hclose]

end LayoutTrail.Json
