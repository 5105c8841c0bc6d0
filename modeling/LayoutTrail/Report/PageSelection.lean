import LayoutTrail.Error
import LayoutTrail.Text.Blank

/-!
# Selections of pages

Pages are counted from one in a selection, as readers count them, and from zero in cursors.
-/

namespace LayoutTrail

/-- Which pages to show. -/
inductive PageSelection
  | all
  | range (first last : Nat)
  | pages (numbers : List Nat)
  deriving DecidableEq, Repr

namespace PageSelection

/-- Whether a page counted from one is selected. -/
def includes (s : PageSelection) (page : Nat) : Bool :=
  match s with
  | all => true
  | range first last => first ≤ page && page ≤ last
  | pages numbers => numbers.contains page

/-- Whether a page counted from zero is selected. -/
def includesIndex (s : PageSelection) (index : Nat) : Bool := s.includes (index + 1)

/-- Largest page number. -/
def maxPage : Nat := UInt64.size - 1

/-- The number that decimal digits spell, if all characters are digits and there is one. -/
def digitsValue? (cs : List Char) : Option Nat :=
  if cs.isEmpty || !cs.all Char.isDigit then none
  else some (cs.foldl (fun n c => 10 * n + (c.toNat - '0'.toNat)) 0)

/-- A page number, which may have a plus sign and white space around it. -/
def readPage (cs : List Char) : Except Error Nat :=
  let trimmed := Text.trim cs
  let digits := match trimmed with
    | '+' :: rest => rest
    | rest => rest
  match digitsValue? digits with
  | some n =>
    if n ≤ maxPage then .ok n
    else .error (.pageRange ("invalid page number " ++ Text.quoted (String.ofList trimmed)))
  | none => .error (.pageRange ("invalid page number " ++ Text.quoted (String.ofList trimmed)))

/-- The parts before and after the first hyphen. -/
def splitHyphen? (cs : List Char) : Option (List Char × List Char) :=
  let first := cs.takeWhile (· != '-')
  match cs.drop first.length with
  | [] => none
  | _ :: last => some (first, last)

/-- The parts between commas. -/
def splitCommas (cs : List Char) : List (List Char) :=
  let (part, parts) := cs.foldr (fun c (part, parts) =>
    if c == ',' then ([], part :: parts) else (c :: part, parts)) ([], [])
  part :: parts

/-- The pages from one to another, none if they are in the wrong order. -/
def expand (first last : Nat) : List Nat := List.range' first (last + 1 - first)

/-- The pages of one part of a list: a number, or a range. -/
def readPart (cs : List Char) : Except Error (List Nat) :=
  match splitHyphen? cs with
  | some (first, last) => do
    let first ← readPage first
    let last ← readPage last
    .ok (expand first last)
  | none => do .ok [← readPage cs]

/-- The pages of all parts in order. -/
def readParts : List (List Char) → Except Error (List Nat)
  | [] => .ok []
  | part :: rest => do
    let pages ← readPart part
    let more ← readParts rest
    .ok (pages ++ more)

/-- Leaves one of several equal numbers that follow each other. -/
def dropRepeats : List Nat → List Nat
  | [] => []
  | [n] => [n]
  | n :: m :: rest => if n = m then dropRepeats (m :: rest) else n :: dropRepeats (m :: rest)

/-- Reads a selection: nothing or `all`, a single range, or a list of numbers and ranges. -/
def parse (text : String) : Except Error PageSelection :=
  let cs := Text.trim text.toList
  if cs.isEmpty || cs == ['a', 'l', 'l'] then .ok .all
  else
    match cs.contains ',', splitHyphen? cs with
    | false, some (first, last) => do
      let first ← readPage first
      let last ← readPage last
      .ok (.range first last)
    | _, _ => do
      let numbers ← readParts (splitCommas cs)
      .ok (.pages (dropRepeats (numbers.mergeSort (· ≤ ·))))

end PageSelection

end LayoutTrail
