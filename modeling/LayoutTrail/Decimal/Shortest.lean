import LayoutTrail.Decimal.Binary

/-!
# Shortest decimal text of a float

The fewest decimal digits that read back as the same float, and among those the nearest to it.  A
decimal reads back as a float when it lies in the interval of numbers that round to the float; the
ends belong to the interval exactly when the mantissa is even.
-/

namespace LayoutTrail.Decimal

/-- A positive decimal number `digits · 10 ^ exponent`. -/
structure Scaled where
  digits : Nat
  exponent : Int
  deriving DecidableEq, Repr

/-- The interval of numbers that round to a float, and the float, as fractions over one
denominator. -/
structure Interval where
  low : Nat
  value : Nat
  high : Nat
  den : Nat
  closed : Bool

/-- The interval of a positive float. -/
def Interval.of (b : Binary) : Interval :=
  let unit := Nat.pow 2 b.exponent.toNat
  { low := (4 * b.mantissa - if b.isLowest then 1 else 2) * unit
    value := 4 * b.mantissa * unit
    high := (4 * b.mantissa + 2) * unit
    den := 4 * b.den
    closed := b.mantissa % 2 = 0 }

/-- Whether `n / d` is in the interval. -/
def Interval.holds (i : Interval) (n d : Nat) : Bool :=
  if i.closed then i.low * d ≤ n * i.den && n * i.den ≤ i.high * d
  else i.low * d < n * i.den && n * i.den < i.high * d

/-- The number of digits before the point of `num / den`, negative for the zeros after it: the
least `e` with `num / den < 10 ^ e`. -/
def magnitude (num den : Nat) : Int :=
  if den ≤ num then ((digits (num / den)).length : Int)
  else
    let zeros := (digits (den / num)).length - 1
    if den ≤ num * Nat.pow 10 zeros then 1 - (zeros : Int) else -(zeros : Int)

/-- The decimal with the given exponent that is nearest to the value among those in the interval,
if there is one: its digits are those of one of the value's two neighbours. -/
def Interval.nearest? (i : Interval) (exponent : Int) : Option Nat :=
  let up := Nat.pow 10 exponent.toNat
  let down := Nat.pow 10 (-exponent).toNat
  let below := i.value * down / (i.den * up)
  let holds := fun n => i.holds (n * up) down
  let twice := 2 * i.value * down
  let middle := (2 * below + 1) * i.den * up
  match holds below, holds (below + 1) with
  | false, false => none
  | true, false => some below
  | false, true => some (below + 1)
  | true, true =>
    if twice < middle then some below
    else if middle < twice then some (below + 1)
    else some (if below % 2 = 0 then below else below + 1)

/-- The first of the exponents `exponent`, `exponent - 1`, … that has a decimal in the interval. -/
def Interval.shortestFrom (i : Interval) (exponent : Int) : Nat → Scaled
  | 0 => ⟨(i.nearest? exponent).getD 0, exponent⟩
  | k + 1 =>
    match i.nearest? exponent with
    | some digits => ⟨digits, exponent⟩
    | none => i.shortestFrom (exponent - 1) k

/-- Moves zeros from the end of the digits into the exponent. -/
def Scaled.strip (s : Scaled) : Nat → Scaled
  | 0 => s
  | k + 1 =>
    if s.digits % 10 = 0 && s.digits != 0 then Scaled.strip ⟨s.digits / 10, s.exponent + 1⟩ k else s

/-- The shortest decimal that reads back as a positive float; seventeen digits always suffice. -/
def shortest (b : Binary) : Scaled :=
  let i := Interval.of b
  let top := magnitude i.value i.den
  (i.shortestFrom (top - 1) 17).strip 20

end LayoutTrail.Decimal
