import LayoutTrail.Decimal.Binary

/-!
# Decimal text with a fixed number of places

The exact value of a float, rounded to so many places; a half goes to the even neighbour.
-/

namespace LayoutTrail.Decimal

/-- `n` with a point before its last `places` digits. -/
def pointed (n places : Nat) : List Char :=
  let whole := digits (n / Nat.pow 10 places)
  let part := digits (n % Nat.pow 10 places)
  if places = 0 then whole
  else whole ++ '.' :: (List.replicate (places - part.length) '0' ++ part)

/-- The text of a float with `places` places. -/
def fixed (places : Nat) (x : Float) : String :=
  match FloatClass.of x with
  | .nan => "NaN"
  | .infinite negative => if negative then "-inf" else "inf"
  | .finite negative b =>
    let text := pointed (roundDiv (b.num * Nat.pow 10 places) b.den) places
    String.ofList (if negative then '-' :: text else text)

end LayoutTrail.Decimal
