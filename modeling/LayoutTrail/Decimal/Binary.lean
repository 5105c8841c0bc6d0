/-!
# Binary floating point numbers as fractions

A finite float is `± mantissa · 2 ^ exponent`.  Decimal texts are computed from this form with
natural numbers, so that nothing is rounded on the way.
-/

namespace LayoutTrail.Decimal

/-- A finite float other than its sign: `mantissa · 2 ^ exponent`. -/
structure Binary where
  mantissa : Nat
  exponent : Int
  deriving DecidableEq, Repr

/-- What a float holds. -/
inductive FloatClass
  | nan
  | infinite (negative : Bool)
  | finite (negative : Bool) (value : Binary)
  deriving DecidableEq, Repr

/-- Reads the sign, exponent and fraction fields of a float. -/
def FloatClass.of (x : Float) : FloatClass :=
  let bits := x.toBits.toNat
  let negative : Bool := bits / Nat.pow 2 63 == 1
  let field : Nat := bits / Nat.pow 2 52 % 2048
  let fraction : Nat := bits % Nat.pow 2 52
  if field = 2047 then if fraction = 0 then .infinite negative else .nan
  else if field = 0 then .finite negative ⟨fraction, -1074⟩
  else .finite negative ⟨Nat.pow 2 52 + fraction, (field : Int) - 1075⟩

namespace Binary

/-- The numerator of the value as a fraction. -/
def num (b : Binary) : Nat := b.mantissa * Nat.pow 2 b.exponent.toNat

/-- The denominator of the value as a fraction. -/
def den (b : Binary) : Nat := Nat.pow 2 (-b.exponent).toNat

/-- Whether the gap below the value is half the gap above it. -/
def isLowest (b : Binary) : Bool := b.mantissa = Nat.pow 2 52 && b.exponent > -1074

end Binary

/-- The digits of a natural number in base ten. -/
def digits (n : Nat) : List Char := Nat.toDigits 10 n

/-- `num / den` rounded to the nearest natural number, a half to the even neighbour. -/
def roundDiv (num den : Nat) : Nat :=
  let q := num / den
  let r := num % den
  if 2 * r < den then q
  else if den < 2 * r then q + 1
  else if q % 2 = 0 then q else q + 1

end LayoutTrail.Decimal
