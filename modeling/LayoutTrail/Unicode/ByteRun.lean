import LayoutTrail.Unicode.Interval

/-!
# Runs of UTF-8

The encodings of an interval of code points as runs of byte sequences: a run gives an interval for
each byte, and stands for all sequences with bytes from these intervals.  Surrogates have no
encoding.
-/

namespace LayoutTrail.Unicode

/-- An interval of bytes for each place of a sequence. -/
abbrev ByteRun := List Interval

namespace ByteRun

/-- The run of all numbers with `k` digits to base 64, as continuation bytes. -/
def anyTail (k : Nat) : ByteRun := List.replicate k (0x80, 0xBF)

/-- The runs of the numbers from `first` to `last`, written to base 64 with `k` digits after the
leading one; `lead` is added to the leading digit and `0x80` to the others.  A leading digit under
which not all numbers are wanted has runs of its own. -/
def split (lead : Nat) : Nat → Nat → Nat → List ByteRun
  | 0, first, last => [[(lead + first, lead + last)]]
  | k + 1, first, last =>
    let unit := 64 ^ (k + 1)
    let low := first / unit
    let high := last / unit
    let under (digit first last : Nat) : List ByteRun :=
      (split 0x80 k first last).map ((lead + digit, lead + digit) :: ·)
    if low = high then under low (first % unit) (last % unit)
    else
      let before := if first % unit = 0 then [] else under low (first % unit) (unit - 1)
      let after := if last % unit = unit - 1 then [] else under high 0 (last % unit)
      let least := if first % unit = 0 then low else low + 1
      let most := if last % unit = unit - 1 then high else high - 1
      let between := if least ≤ most then [(lead + least, lead + most) :: anyTail (k + 1)] else []
      before ++ between ++ after

/-- The intervals of code points whose encodings have one length, with the leading byte of that
length and the number of bytes after it. -/
def lengths : List (Interval × Nat × Nat) :=
  [((0, 0x7F), 0, 0), ((0x80, 0x7FF), 0xC0, 1), ((0x800, 0xD7FF), 0xE0, 2),
    ((0xE000, 0xFFFF), 0xE0, 2), ((0x10000, 0x10FFFF), 0xF0, 3)]

/-- The runs of an interval of code points. -/
def ofInterval (x : Interval) : List ByteRun :=
  lengths.flatMap fun ((first, last), lead, k) =>
    let first := max first x.1
    let last := min last x.2
    if first ≤ last then split lead k first last else []

/-- The number of places in which two runs agree before they differ. -/
def agreement : ByteRun → ByteRun → Nat
  | x :: xs, y :: ys => if x = y then agreement xs ys + 1 else 0
  | _, _ => 0

/-- The number of different beginnings of runs, of which those with a common beginning follow each
other; `last` is the run before them. -/
def beginnings (last : ByteRun) : List ByteRun → Nat
  | [] => 0
  | r :: rs => r.length - agreement last r + beginnings r rs

end ByteRun

end LayoutTrail.Unicode
