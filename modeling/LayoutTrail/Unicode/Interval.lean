import LayoutTrail.Unicode.CharSet

/-!
# Sets as intervals

The members of a set of characters written out as intervals in increasing order that neither
overlap nor touch.
-/

namespace LayoutTrail.Unicode

/-- The numbers from a first to a last one. -/
abbrev Interval := Nat × Nat

namespace Interval

/-- Puts an interval before others in increasing order, none of which starts before it; those that
it overlaps or touches become part of it. -/
def prepend (first last : Nat) : List Interval → List Interval
  | [] => [(first, last)]
  | (first', last') :: rest =>
    if first' ≤ last + 1 then prepend first (max last last') rest
    else (first, last) :: (first', last') :: rest

/-- The numbers in any of the intervals. -/
def union (xs : List Interval) : List Interval :=
  (xs.mergeSort fun x y => x.1 ≤ y.1).foldr (fun x xs => prepend x.1 x.2 xs) []

/-- The numbers from `start` to `last` that are in none of the intervals, which are in increasing
order. -/
def outside (last start : Nat) : List Interval → List Interval
  | [] => if start ≤ last then [(start, last)] else []
  | (first, last') :: rest =>
    let rest := outside last (last' + 1) rest
    if start < first then (start, first - 1) :: rest else rest

/-- The code points in none of the intervals. -/
def compl (xs : List Interval) : List Interval := outside 0x10FFFF 0 xs

/-- The code points common to two lists of intervals. -/
def inter (xs ys : List Interval) : List Interval := compl (union (compl xs ++ compl ys))

end Interval

/-- The runs of a range without a gap. -/
def CodeRange.intervals (r : CodeRange) : List Interval :=
  if r.step ≤ 1 then [(r.first, r.last)]
  else (List.range r.count).map fun i => (r.first + r.step * i, r.first + r.step * i)

namespace CharSet

/-- The members of a set as intervals. -/
def intervals : CharSet → List Interval
  | empty => []
  | range first last => if first ≤ last then [(first, last)] else []
  | table t => Interval.union (t.ranges.toList.flatMap CodeRange.intervals)
  | union a b => Interval.union (a.intervals ++ b.intervals)
  | inter a b => Interval.inter a.intervals b.intervals
  | diff a b => Interval.inter a.intervals (Interval.compl b.intervals)
  | symmDiff a b =>
    Interval.union (Interval.inter a.intervals (Interval.compl b.intervals) ++
      Interval.inter b.intervals (Interval.compl a.intervals))
  | compl a => Interval.compl a.intervals
  | caseClosed rule a =>
    let added := (rule.foldable.filter a.holds).flatMap rule.variants
    Interval.union (a.intervals ++ added.map fun n => (n, n))

end CharSet

end LayoutTrail.Unicode
