import LayoutTrail.Pattern.Basic

/-!
# Matching by sets of positions

A set of positions of one text is a number whose bit `i` stands for position `i`.  A pattern is
first laid out as a plan for the text, in which every test of a character or of a position has
become such a set; the plan then carries the set of positions where a match may start to the set
where it may end.  An unbounded repetition keeps for each position the positions it leads to, so
nested repetitions cost no more than their number.
-/

namespace LayoutTrail

/-- The set of the positions of the list entries that satisfy `test`. -/
def positionSet {α : Type} (test : α → Bool) : List α → Nat
  | [] => 0
  | x :: xs => (if test x then 1 else 0) + 2 * positionSet test xs

/-- The union of the rows whose position is in the set. -/
def gather : List Nat → Nat → Nat
  | [], _ => 0
  | row :: rows, set =>
    let later := gather rows (set / 2)
    if set % 2 = 1 then row ||| later else later

/-- For each of the positions `i`, …, `i + k`, the positions that steps lead to; steps never go
back, and `i + k` is the last position. -/
def closureRows (step : Nat → Nat) (i : Nat) : Nat → List Nat
  | 0 => [1 <<< i]
  | k + 1 =>
    let later := closureRows step (i + 1) k
    (1 <<< i ||| gather later (step (1 <<< i) >>> (i + 1))) :: later

/-- Applies `f` up to `k` times, until nothing changes. -/
def iterate (f : Nat → Nat) : Nat → Nat → Nat
  | 0, set => set
  | k + 1, set =>
    let next := f set
    if next = set then set else iterate f k next

/-- A pattern laid out for one text. -/
inductive Plan
  | stay
  /-- Goes one character on from the positions in `here`. -/
  | advance (here : Nat)
  /-- Keeps the positions in `here`. -/
  | guard (here : Nat)
  | seq (a b : Plan)
  | alt (a b : Plan)
  /-- Exactly `k` times. -/
  | times (a : Plan) (k : Nat)
  /-- At most `k` times. -/
  | upTo (a : Plan) (k : Nat)
  /-- From each position to those in its row. -/
  | closure (rows : List Nat)

/-- The positions where a match may end that starts in the set. -/
def Plan.image : Plan → Nat → Nat
  | stay, set => set
  | advance here, set => (set &&& here) <<< 1
  | guard here, set => set &&& here
  | seq a b, set =>
    let middle := a.image set
    if middle = 0 then 0 else b.image middle
  | alt a b, set => a.image set ||| b.image set
  | times a k, set => iterate a.image k set
  | upTo a k, set => iterate (fun set => set ||| a.image set) k set
  | closure rows, set => gather rows set

/-- The characters before and after each position of a text. -/
def surroundings : Option Char → List Char → List (Option Char × Option Char)
  | before, [] => [(before, none)]
  | before, c :: cs => (before, some c) :: surroundings (some c) cs

namespace Pattern

/-- Lays a pattern out for a text. -/
def plan (text : List Char) : Pattern → Plan
  | empty => .stay
  | char set => .advance (positionSet set.contains text)
  | look l => .guard (positionSet (fun around => l.holds around.1 around.2) (surroundings none text))
  | seq a b => .seq (a.plan text) (b.plan text)
  | alt a b => .alt (a.plan text) (b.plan text)
  | many a least most =>
    let a := a.plan text
    match most with
    | none => .seq (.times a least) (.closure (closureRows a.image 0 text.length))
    | some most => if most < least then .guard 0 else .seq (.times a least) (.upTo a (most - least))
  | group a => a.plan text

/-- All positions of a text. -/
def positions (text : List Char) : Nat := positionSet (fun _ => true) (surroundings none text)

/-- Whether the pattern matches some part of the text. -/
def occursIn (p : Pattern) (text : String) : Bool :=
  (p.plan text.toList).image (positions text.toList) != 0

end Pattern

end LayoutTrail
