import LayoutTrail.Pattern.Basic

/-!
# Flags of the pattern language

The flags in force at a place of a pattern, the changes that a group or a directive makes to them,
and what they mean for a character, a dot and an anchor.  With the `u` flag off a set must be one
of ASCII characters, so a negated set and the dot are refused there.
-/

namespace LayoutTrail.Pattern

open Unicode (CharSet CaseRule)

/-- Why a text is no pattern. -/
inductive Fault
  | malformed
  | tooLarge
  deriving DecidableEq, Repr

/-- A flag by its letter: `i`, `m`, `s`, `U`, `u`, `R` and `x`. -/
inductive Flag
  | ignoreCase
  | multiLine
  | dotAll
  | swapGreed
  | unicode
  | crlf
  | spaced
  deriving DecidableEq, Repr

/-- The flag with a letter. -/
def Flag.ofChar? : Char → Option Flag
  | 'i' => some ignoreCase
  | 'm' => some multiLine
  | 's' => some dotAll
  | 'U' => some swapGreed
  | 'u' => some unicode
  | 'R' => some crlf
  | 'x' => some spaced
  | _ => none

/-- The flags in force at a place; whether repetitions are greedy has no effect on a whole text. -/
structure Flags where
  ignoreCase : Bool := false
  multiLine : Bool := false
  dotAll : Bool := false
  unicode : Bool := true
  crlf : Bool := false
  /-- Blanks and comments between the parts of the pattern are skipped. -/
  spaced : Bool := false
  deriving DecidableEq, Repr

namespace Flags

/-- Sets one flag. -/
def set (f : Flags) (flag : Flag) (value : Bool) : Flags :=
  match flag with
  | .ignoreCase => { f with ignoreCase := value }
  | .multiLine => { f with multiLine := value }
  | .dotAll => { f with dotAll := value }
  | .swapGreed => f
  | .unicode => { f with unicode := value }
  | .crlf => { f with crlf := value }
  | .spaced => { f with spaced := value }

/-- Makes a list of changes. -/
def change (f : Flags) (changes : List (Flag × Bool)) : Flags :=
  changes.foldl (fun f change => f.set change.1 change.2) f

/-- The rule for letters that differ in case. -/
def caseRule (f : Flags) : CaseRule := if f.unicode then .simple else .ascii

/-- The rule for word characters. -/
def wordRule (f : Flags) : WordRule := if f.unicode then .unicode else .ascii

/-- Closes a set under case if case is ignored. -/
def fold (f : Flags) (s : CharSet) : CharSet :=
  if f.ignoreCase then .caseClosed f.caseRule s else s

/-- The complement of a set, if `negated`. -/
def negate (f : Flags) (negated : Bool) (s : CharSet) : Except Fault CharSet :=
  if negated then if f.unicode then .ok (.compl s) else .error .malformed else .ok s

/-- What a dot matches. -/
def dot (f : Flags) : Except Fault CharSet :=
  if !f.unicode then .error .malformed
  else if f.dotAll then .ok .all
  else if f.crlf then .ok (.compl (.union (.single '\n') (.single '\r')))
  else .ok (.compl (.single '\n'))

/-- What a caret asserts. -/
def caret (f : Flags) : Look :=
  if f.multiLine then if f.crlf then .anyLineStart else .lineStart else .textStart

/-- What a dollar sign asserts. -/
def dollar (f : Flags) : Look :=
  if f.multiLine then if f.crlf then .anyLineEnd else .lineEnd else .textEnd

/-- A character that stands for itself; `byte` if it was written with two hexadecimal digits, which
name a byte when the `u` flag is off. -/
def literal (f : Flags) (c : Char) (byte : Bool) : Except Fault CharSet :=
  if !f.unicode && byte && c.toNat > 0x7F then .error .malformed
  else .ok (if f.ignoreCase then .anyCase f.caseRule c else .single c)

/-- The code point of a character in a set. -/
def member (f : Flags) (c : Char) : Except Fault Nat :=
  if f.unicode || c.toNat ≤ 0x7F then .ok c.toNat else .error .malformed

end Flags

/-- White space. -/
def isBlank (c : Char) : Bool := CharSet.blank.contains c

/-- Drops blanks and comments, a comment running from `#` to the end of its line. -/
def skipBlank (inComment : Bool) : List Char → List Char
  | [] => []
  | c :: cs =>
    if inComment then skipBlank (c != '\n') cs
    else if isBlank c then skipBlank false cs
    else if c == '#' then skipBlank true cs
    else c :: cs

theorem length_skipBlank_le (inComment : Bool) (cs : List Char) :
    (skipBlank inComment cs).length ≤ cs.length := by
  induction cs generalizing inComment with
  | nil => simp [skipBlank]
  | cons c cs ih =>
    simp only [skipBlank]
    split
    · exact Nat.le_succ_of_le (ih _)
    · split
      · exact Nat.le_succ_of_le (ih _)
      · split
        · exact Nat.le_succ_of_le (ih _)
        · exact Nat.le_refl _

/-- What follows the blanks and comments that the flags let stand here. -/
def Flags.skip (f : Flags) (cs : List Char) : List Char :=
  if f.spaced then skipBlank false cs else cs

theorem Flags.length_skip_le (f : Flags) (cs : List Char) : (f.skip cs).length ≤ cs.length := by
  unfold Flags.skip
  split
  · exact length_skipBlank_le _ _
  · exact Nat.le_refl _

theorem Flags.length_lt_of_skip {f : Flags} {c : Char} {cs rest : List Char}
    (h : f.skip cs = c :: rest) : rest.length < cs.length := by
  have := f.length_skip_le cs
  rw [h] at this
  exact this

end LayoutTrail.Pattern
