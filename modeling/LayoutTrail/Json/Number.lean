import LayoutTrail.Decimal.Shortest

/-!
# Numbers of JSON texts

A number that is written as an integer and fits 64 bits is kept as an integer; any other is a
float.  A float is read from at most 64 bits of its digits, which are converted and then scaled by
one power of ten (by several where the exponent is out of the range of floats).  Coordinates with
few digits are read exactly in this way; a text of more than about sixteen digits may be read as a
neighbour of the nearest float.
-/

namespace LayoutTrail.Json

/-- A number. -/
inductive Number
  | integer (n : Int)
  | float (x : Float)

/-- A number as it is written: the digits before the point, those after it if there is a point,
and the sign and digits of the exponent if there is one. -/
structure Numeral where
  negative : Bool
  whole : List Char
  fraction : Option (List Char)
  exponent : Option (Bool × List Char)
  deriving DecidableEq, Repr

/-- The largest integer kept. -/
def maxInteger : Nat := UInt64.size - 1

/-- The value of a decimal digit. -/
def digitValue (c : Char) : Nat := c.toNat - '0'.toNat

/-- Appends digits to a significand as long as it fits, and counts the digits left over. -/
def appendDigits (significand : Nat) : List Char → Nat × Nat
  | [] => (significand, 0)
  | c :: cs =>
    let next := 10 * significand + digitValue c
    if next ≤ maxInteger then appendDigits next cs else (significand, (c :: cs).length)

/-- Ten to a power, as a float. -/
def powerOfTen (k : Nat) : Float := Float.ofScientific 1 false k

/-- `x` divided by ten to the power `k`, which may be beyond the floats. -/
def scaleDown (x : Float) (k : Nat) : Float :=
  if k ≤ 308 then x / powerOfTen k
  else if x == 0 then x
  else scaleDown (x / powerOfTen 308) (k - 308)
termination_by k

/-- `significand · 10 ^ exponent`, unless it is too large for a float. -/
def scaled? (significand : Nat) (exponent : Int) : Option Float :=
  let x := Float.ofNat significand
  if exponent < 0 then some (scaleDown x (-exponent).toNat)
  else if exponent ≤ 308 then
    let y := x * powerOfTen exponent.toNat
    if y.isInf then none else some y
  else if significand = 0 then some x
  else none

/-- Largest exponent that is read; one digit more and the number counts as zero or as too large. -/
def maxExponent : Nat := UInt32.size / 2 - 1

/-- The exponent that digits spell, if it is not too large. -/
def exponentValue? (digits : List Char) : Option Nat :=
  let n := digits.foldl (fun n c => 10 * n + digitValue c) 0
  if n ≤ maxExponent then some n else none

namespace Numeral

/-- The significand of the digits before the point, and the power of ten that scales it. -/
def wholeParts (n : Numeral) : Nat × Int :=
  let (significand, left) := appendDigits 0 n.whole
  (significand, left)

/-- The significand of all digits before the exponent, and the power of ten that scales it. -/
def parts (n : Numeral) : Nat × Int :=
  let (significand, exponent) := n.wholeParts
  match n.fraction with
  | none => (significand, exponent)
  | some fraction =>
    let (significand, left) := appendDigits significand fraction
    (significand, exponent - (fraction.length - left : Nat))

/-- The absolute value as a float, unless it is too large. -/
def magnitude? (n : Numeral) : Option Float :=
  let (significand, exponent) := n.parts
  match n.exponent with
  | none => scaled? significand exponent
  | some (negative, digits) =>
    match exponentValue? digits with
    | some e => scaled? significand (if negative then exponent - e else exponent + e)
    | none => if significand = 0 || negative then some 0 else none

/-- The number, unless it is too large for a float. -/
def value? (n : Numeral) : Option Number :=
  let (significand, left) := n.wholeParts
  if n.fraction.isNone && n.exponent.isNone && left == 0 then
    if !n.negative then some (.integer significand)
    else if significand = 0 || UInt64.size / 2 < significand then
      some (.float (-Float.ofNat significand))
    else some (.integer (-(significand : Int)))
  else n.magnitude?.map fun x => .float (if n.negative then -x else x)

end Numeral

/-- Where the decimal exponent lies for which a float is written without an exponent. -/
structure FloatFormat where
  leastPlain : Int
  mostPlain : Int

/-- Floats are written plainly from `0.00001` up to sixteen digits before the point. -/
def floatFormat : FloatFormat := ⟨-5, 15⟩

/-- The numeral of a decimal.  There is always a point, except before an exponent when there is
only one digit. -/
def Numeral.ofScaled (negative : Bool) (s : Decimal.Scaled) : Numeral :=
  let ds := Decimal.digits s.digits
  let point : Int := ds.length + s.exponent
  let power := point - 1
  if floatFormat.leastPlain ≤ power && power ≤ floatFormat.mostPlain then
    if point ≤ 0 then
      ⟨negative, ['0'], some (List.replicate (-point).toNat '0' ++ ds), none⟩
    else
      let whole := ds.take point.toNat
      let fraction := ds.drop point.toNat
      ⟨negative, whole ++ List.replicate (point.toNat - ds.length) '0',
        some (if fraction.isEmpty then ['0'] else fraction), none⟩
  else
    ⟨negative, ds.take 1, if ds.length ≤ 1 then none else some (ds.drop 1),
      some (power < 0, Decimal.digits power.natAbs)⟩

/-- The numeral of a finite float: the shortest decimal that reads back as it. -/
def Numeral.ofFloat? (x : Float) : Option Numeral :=
  match Decimal.FloatClass.of x with
  | .nan => none
  | .infinite _ => none
  | .finite negative b =>
    some (if b.mantissa = 0 then ⟨negative, ['0'], some ['0'], none⟩
      else .ofScaled negative (Decimal.shortest b))

/-- The characters of a numeral. -/
def Numeral.render (n : Numeral) : List Char :=
  (if n.negative then ['-'] else []) ++ n.whole ++
    (match n.fraction with
      | none => []
      | some ds => '.' :: ds) ++
    (match n.exponent with
      | none => []
      | some (negative, ds) => 'e' :: (if negative then '-' else '+') :: ds)

/-- The numeral of an integer. -/
def Numeral.ofInt (n : Int) : Numeral := ⟨n < 0, Decimal.digits n.natAbs, none, none⟩

/-- The text of a number; floats that are not finite have none and are written as `null`. -/
def Number.render : Number → List Char
  | .integer n => (Numeral.ofInt n).render
  | .float x =>
    match Numeral.ofFloat? x with
    | some n => n.render
    | none => ['n', 'u', 'l', 'l']

end LayoutTrail.Json
