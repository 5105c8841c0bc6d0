/-!
# Tables of code points

A set of code points written as a list of hexadecimal ranges, and a binary search in it.  A table
is written in increasing order, so that the search meets every range that could hold a code point.
-/

namespace LayoutTrail.Unicode

/-- The code points `first`, `first + step`, and so on up to `last`. -/
structure CodeRange where
  first : Nat
  last : Nat
  step : Nat
  deriving Repr

/-- Whether a code point is in the range. -/
def CodeRange.contains (r : CodeRange) (n : Nat) : Bool :=
  r.first ≤ n && n ≤ r.last && (n - r.first) % r.step == 0

/-- The value of a digit up to `F`. -/
def hexDigit? (c : Char) : Option Nat :=
  if '0' ≤ c && c ≤ '9' then some (c.toNat - '0'.toNat)
  else if 'A' ≤ c && c ≤ 'F' then some (c.toNat - 'A'.toNat + 10)
  else if 'a' ≤ c && c ≤ 'f' then some (c.toNat - 'a'.toNat + 10)
  else none

/-- The number that hexadecimal digits spell; other characters are skipped. -/
def hexNumber (cs : List Char) : Nat :=
  cs.foldl (fun n c => match hexDigit? c with
    | some d => 16 * n + d
    | none => n) 0

/-- The number of code points in the range. -/
def CodeRange.count (r : CodeRange) : Nat :=
  if r.last < r.first then 0 else (r.last - r.first) / max 1 r.step + 1

/-- The number of runs without a gap. -/
def CodeRange.runs (r : CodeRange) : Nat := if r.step ≤ 1 then 1 else r.count

/-- Reads `F`, `F-L` or `F-L/S`: a first code point, a last one and a step. -/
def CodeRange.ofChars (cs : List Char) : CodeRange :=
  let first := cs.takeWhile (· != '-')
  match cs.drop first.length with
  | [] => ⟨hexNumber first, hexNumber first, 1⟩
  | _ :: rest =>
    let last := rest.takeWhile (· != '/')
    match rest.drop last.length with
    | [] => ⟨hexNumber first, hexNumber last, 1⟩
    | _ :: step => ⟨hexNumber first, hexNumber last, max 1 (hexNumber step)⟩

/-- The words of a text: its longest runs without a space or a line end. -/
def wordsOf (cs : List Char) : List (List Char) :=
  let (word, words) := cs.foldr (fun c (word, words) =>
    if c == ' ' || c == '\n' then
      ([], if word.isEmpty then words else word :: words)
    else (c :: word, words)) ([], [])
  if word.isEmpty then words else word :: words

/-- A set of code points, as ranges in increasing order. -/
structure RangeTable where
  ranges : Array CodeRange

namespace RangeTable

/-- Reads the ranges of a table, separated by spaces and line ends. -/
def ofText (text : String) : RangeTable :=
  ⟨((wordsOf text.toList).map CodeRange.ofChars).toArray⟩

/-- Binary search among the ranges at `low`, …, `high - 1`. -/
def search (ranges : Array CodeRange) (n low high : Nat) : Bool :=
  if low < high then
    let middle := (low + high) / 2
    match ranges[middle]? with
    | none => false
    | some r =>
      if n < r.first then search ranges n low middle
      else if r.last < n then search ranges n (middle + 1) high
      else r.contains n
  else false
termination_by high - low

/-- Whether a code point is in the table. -/
def contains (table : RangeTable) (n : Nat) : Bool :=
  search table.ranges n 0 table.ranges.size

/-- The number of code points. -/
def count (table : RangeTable) : Nat := table.ranges.foldl (fun n r => n + r.count) 0

/-- The number of runs without a gap. -/
def runs (table : RangeTable) : Nat := table.ranges.foldl (fun n r => n + r.runs) 0

end RangeTable

end LayoutTrail.Unicode
