import LayoutTrail.Proofs.Json.Placement

/-!
# Numbers that are read back

Whether a number is read back as it was printed is asked of a text that holds nothing else; then it is
read back wherever a value may come.
-/

namespace LayoutTrail.Json

open Text (Symbol)

/-- The text of a number is read as that number. -/
def Number.ReadsBack (n : Number) : Prop :=
  Value.ofText (String.ofList n.render) = .ok (.number n)

namespace Tree

theorem eq_number_of_toValue {t : Tree} {depth : Nat} {n : Number}
    (h : t.toValue depth = .ok (.number n)) : t = .number (.ok n) := by
  cases t with
  | number m =>
    cases m with
    | error f => cases h
    | ok m =>
      obtain rfl : m = n := by injection h with h; injection h
      rfl
  | string s => cases s <;> cases h
  | array items cut =>
    cases depth with
    | zero => cases h
    | succ depth =>
      rw [toValue] at h
      obtain ⟨_, _, h⟩ := exists_of_bind_eq_ok h
      obtain ⟨_, _, h⟩ := exists_of_bind_eq_ok h
      cases h
  | object members cut =>
    cases depth with
    | zero => cases h
    | succ depth =>
      rw [toValue] at h
      obtain ⟨_, _, h⟩ := exists_of_bind_eq_ok h
      obtain ⟨_, _, h⟩ := exists_of_bind_eq_ok h
      cases h
  | null | bool | fault => cases h

theorem Reading.eq_of_toValue {r : Reading} {n : Number} (h : r.toValue = .ok (.number n)) :
    r = ⟨.number (.ok n), false⟩ := by
  obtain ⟨tree, trailing⟩ := r
  simp only [toValue, bind, Except.bind] at h
  split at h
  · cases h
  next v hv =>
    cases trailing with
    | true => cases h
    | false =>
      obtain rfl : v = .number n := by injection h
      rw [eq_number_of_toValue hv]

end Tree

/-- A number that is printed as the one token that stands for it is read back. -/
theorem Number.readsBack_of_tokens {n : Number}
    (h : tokens (n.render.map .char) = [.number (.ok n)]) : n.ReadsBack := by
  rw [ReadsBack, Value.ofText, Tree.ofText, Tree.ofSymbols, Symbol.ofText, String.toList_ofList, h]
  rfl

theorem Number.readsBack_natCast {n : Nat} (hn : n < UInt64.size) : (Number.integer n).ReadsBack :=
  readsBack_of_tokens (tokens_render_natCast hn)

open Tree.State in
theorem Number.ReadsBack.readOn {n : Number} (hn : n.ReadsBack) {expected : Tree.Expected}
    (he : AtValue expected) (opened : List Tree.Open) {rest : List Symbol} (hr : Delimited rest) :
    (within opened expected).readOn (n.render.map .char ++ rest) =
      (after (.number (.ok n)) opened).readOn rest := by
  have htext := Tree.Reading.eq_of_toValue hn
  have hholds : HoldsValue 0 (String.ofList n.render) := by
    rw [HoldsValue, htext]
    exact ⟨rfl, .number n, rfl⟩
  have hread := hholds.readOn he opened hr
  rw [htext, String.toList_ofList] at hread
  exact hread

end LayoutTrail.Json
