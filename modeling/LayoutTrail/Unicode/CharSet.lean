import LayoutTrail.Unicode.CaseFolding

/-!
# Sets of characters

Sets built from ranges and tables by the operations of set algebra and by closing under case.  A
set is kept as it was built; membership is decided per character, and the lemmas below say what a
union of many sets and a character with its variants hold.
-/

namespace LayoutTrail.Unicode

/-- Which characters count as differing only in case. -/
inductive CaseRule
  /-- Simple case folding. -/
  | simple
  /-- The letters `A` to `Z` against `a` to `z`. -/
  | ascii
  deriving DecidableEq, Repr

/-- The other characters that a rule identifies with `n`. -/
def CaseRule.variants : CaseRule → Nat → List Nat
  | simple, n => CaseFolding.variants n
  | ascii, n => CaseFolding.asciiVariants n

/-- The code points that have variants under a rule. -/
def CaseRule.foldable : CaseRule → List Nat
  | simple => CaseFolding.foldable
  | ascii => CaseFolding.asciiFoldable

/-- A set of code points. -/
inductive CharSet
  | empty
  | range (first last : Nat)
  | table (t : RangeTable)
  | union (a b : CharSet)
  | inter (a b : CharSet)
  | diff (a b : CharSet)
  | symmDiff (a b : CharSet)
  | compl (a : CharSet)
  /-- All characters that differ at most in case from a member. -/
  | caseClosed (rule : CaseRule) (a : CharSet)

namespace CharSet

/-- Membership of a code point. -/
def holds : CharSet → Nat → Bool
  | empty, _ => false
  | range first last, n => first ≤ n && n ≤ last
  | table t, n => t.contains n
  | union a b, n => a.holds n || b.holds n
  | inter a b, n => a.holds n && b.holds n
  | diff a b, n => a.holds n && !b.holds n
  | symmDiff a b, n => a.holds n != b.holds n
  | compl a, n => !a.holds n
  | caseClosed rule a, n => a.holds n || (rule.variants n).any a.holds

/-- Membership of a character. -/
def contains (s : CharSet) (c : Char) : Bool := s.holds c.toNat

/-- The set of one character. -/
def single (c : Char) : CharSet := range c.toNat c.toNat

/-- The union of a list of sets. -/
def unionOf : List CharSet → CharSet
  | [] => empty
  | [s] => s
  | s :: rest => union s (unionOf rest)

/-- A character and its variants under a rule. -/
def anyCase (rule : CaseRule) (c : Char) : CharSet :=
  unionOf (single c :: (rule.variants c.toNat).map fun n => range n n)

/-- The union of tables. -/
def tables (ts : List RangeTable) : CharSet := unionOf (ts.map table)

/-- All characters. -/
def all : CharSet := range 0 0x10FFFF

/-- A bound on the number of members. -/
def count : CharSet → Nat
  | empty => 0
  | range first last => last + 1 - first
  | table t => t.count
  | union a b => a.count + b.count
  | inter a b => min a.count b.count
  | diff a _ => a.count
  | symmDiff a b => a.count + b.count
  | compl _ => 0x110000
  | caseClosed _ a => 4 * a.count

/-- How many members a closure under case adds at most to any set. -/
def maxAdded : Nat := 3000

/-- A bound on the number of runs without a gap. -/
def runs : CharSet → Nat
  | empty => 0
  | range _ _ => 1
  | table t => t.runs
  | union a b => a.runs + b.runs
  | inter a b => a.runs + b.runs
  | diff a b => a.runs + b.runs
  | symmDiff a b => a.runs + b.runs
  | compl a => a.runs + 1
  | caseClosed _ a => a.runs + min (3 * a.count) maxAdded

@[simp] theorem holds_single (c : Char) (n : Nat) :
    (single c).holds n = (n == c.toNat) := by
  rw [Bool.eq_iff_iff]
  simp only [single, holds, Bool.and_eq_true, decide_eq_true_eq, beq_iff_eq]
  omega

theorem holds_unionOf (ss : List CharSet) (n : Nat) :
    (unionOf ss).holds n = ss.any (·.holds n) := by
  induction ss with
  | nil => rfl
  | cons s rest ih =>
    cases rest with
    | nil => simp [unionOf]
    | cons t rest => simp [unionOf, holds, ih]

theorem holds_anyCase (rule : CaseRule) (c : Char) (n : Nat) :
    (anyCase rule c).holds n = (n == c.toNat || (rule.variants c.toNat).contains n) := by
  rw [anyCase, holds_unionOf, List.any_cons, holds_single, List.any_map]
  congr 1
  rw [Bool.eq_iff_iff]
  simp only [List.any_eq_true, Function.comp, holds, Bool.and_eq_true, decide_eq_true_eq,
    List.contains_iff_mem]
  exact ⟨fun ⟨m, hm, h⟩ => (Nat.le_antisymm h.1 h.2) ▸ hm, fun h => ⟨n, h, Nat.le_refl _, Nat.le_refl _⟩⟩

end CharSet

end LayoutTrail.Unicode
