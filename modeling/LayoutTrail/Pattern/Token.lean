import LayoutTrail.Pattern.Bracket

/-!
# Tokens of the pattern language

The parts that a pattern is a sequence of: atoms, repetitions, bars, groups and directives.  The
flags in force decide how a part is read, so tokens are read one at a time.
-/

namespace LayoutTrail.Pattern

open Unicode (CharSet)

/-- Whether the place of a group in a match is kept, and under what name. -/
inductive GroupKind
  | plain
  | numbered
  | named (name : List Char)

/-- The name of a group that has one. -/
def GroupKind.name? : GroupKind → Option (List Char)
  | named name => some name
  | _ => none

/-- Whether the place of the group is kept. -/
def GroupKind.isKept : GroupKind → Bool
  | plain => false
  | _ => true

/-- A part of a pattern. -/
inductive Token
  /-- A pattern without parts of its own, and its height. -/
  | atom (p : Pattern) (height : Nat)
  /-- A change of flags up to the end of the enclosing group. -/
  | directive (changes : List (Flag × Bool))
  /-- The start of a group, with changes of flags inside it. -/
  | openGroup (changes : List (Flag × Bool)) (kind : GroupKind)
  | closeGroup
  | bar
  | repeated (least : Nat) (most : Option Nat)

/-- Largest number in a repetition. -/
def maxCount : Nat := UInt32.size - 1

/-- The longest run of decimal digits, blanks left out. -/
def countDigits (f : Flags) (cs : List Char) : List Char × List Char :=
  match cs with
  | [] => ([], [])
  | c :: rest =>
    if c.isDigit then
      let (digits, rest) := countDigits f (f.skip rest)
      (c :: digits, rest)
    else ([], c :: rest)
termination_by cs.length
decreasing_by exact Nat.lt_succ_of_le (f.length_skip_le _)

/-- A number of a repetition, with white space on either side. -/
def readCount (f : Flags) (cs : List Char) : Except Fault (Nat × List Char) :=
  let (digits, rest) := countDigits f (cs.dropWhile isBlank)
  let n := digits.foldl (fun n c => 10 * n + (c.toNat - '0'.toNat)) 0
  if digits.isEmpty || n > maxCount then .error .malformed
  else .ok (n, rest.dropWhile isBlank)

/-- Drops a question mark, which only says which of several matches to prefer. -/
def dropLazy : List Char → List Char
  | '?' :: rest => rest
  | cs => cs

/-- The largest number of a repetition, given the smallest: they are the same if there is no comma,
and there is none if nothing follows the comma. -/
def readMost (f : Flags) (least : Nat) : List Char → Except Fault (Option Nat × List Char)
  | ',' :: cs =>
    match f.skip cs with
    | '\x7d' :: rest => .ok (none, '\x7d' :: rest)
    | cs => do
      let (most, rest) ← readCount f cs
      .ok (some most, rest)
  | cs => .ok (some least, cs)

/-- The end of a repetition whose numbers have been read. -/
def endRepetition (f : Flags) (least : Nat) (most : Option Nat) :
    List Char → Except Fault (Token × List Char)
  | '\x7d' :: rest =>
    if most.any (· < least) then .error .malformed
    else .ok (.repeated least most, dropLazy (f.skip rest))
  | _ => .error .malformed

/-- A repetition after its opening brace. -/
def readRepetition (f : Flags) (cs : List Char) : Except Fault (Token × List Char) := do
  let (least, rest) ← readCount f (f.skip cs)
  let (most, rest) ← readMost f least rest
  endRepetition f least most rest

/-- The flags of a group or directive up to the colon or parenthesis that ends them: `seen` holds
the flags met so far, `value` what the next flag is set to, and `dangling` whether a minus sign
has just been read. -/
def readFlags (seen : List Flag) (value dangling : Bool) :
    List Char → Except Fault ((List (Flag × Bool) × Char) × List Char)
  | [] => .error .malformed
  | c :: rest =>
    if c == ':' || c == ')' then
      if dangling then .error .malformed else .ok (([], c), rest)
    else if c == '-' then
      if value then readFlags seen false true rest else .error .malformed
    else
      match Flag.ofChar? c with
      | none => .error .malformed
      | some flag =>
        if seen.contains flag then .error .malformed
        else do
          let ((changes, stop), rest) ← readFlags (flag :: seen) value false rest
          .ok (((flag, value) :: changes, stop), rest)

/-- Whether a character may stand in the name of a group. -/
def isNameChar (c : Char) (first : Bool) : Bool :=
  c == '_' || CharSet.alphabetic.contains c ||
    (!first && (c == '.' || c == '[' || c == ']' || CharSet.number.contains c))

/-- The name of a group up to its closing angle bracket. -/
def readGroupName (cs : List Char) : Except Fault (List Char × List Char) :=
  match splitAt? ['>'] cs with
  | some (first :: more, rest) =>
    if isNameChar first true && more.all (isNameChar · false) then .ok (first :: more, rest)
    else .error .malformed
  | _ => .error .malformed

/-- A group with a name, after the angle bracket before the name. -/
def readNamed (cs : List Char) : Except Fault (Token × List Char) := do
  let (name, rest) ← readGroupName cs
  .ok (.openGroup [] (.named name), rest)

/-- A directive, or a group whose place is not kept, after the question mark. -/
def readChanges (cs : List Char) : Except Fault (Token × List Char) := do
  let ((changes, stop), rest) ← readFlags [] true false cs
  if stop == ':' then .ok (.openGroup changes .plain, rest)
  else if changes.isEmpty then .error .malformed
  else .ok (.directive changes, rest)

/-- A group or directive after its opening parenthesis.  Assertions about what stands around a place
are refused: the signs they are written with neither are flags nor start a name. -/
def readGroup (f : Flags) (cs : List Char) : Except Fault (Token × List Char) :=
  match f.skip cs with
  | '?' :: 'P' :: '<' :: rest => readNamed rest
  | '?' :: '<' :: rest => readNamed rest
  | '?' :: rest => readChanges rest
  | rest => .ok (.openGroup [] .numbered, rest)

/-- The pattern of an escape. -/
def Primitive.asAtom (f : Flags) : Primitive → Except Fault Pattern
  | literal c byte => do .ok (.char (← f.literal c byte))
  | set s => .ok (.char s)
  | look l => .ok (.look l)

/-- The token that starts with `c`. -/
def readToken (f : Flags) (c : Char) (rest : List Char) : Except Fault (Token × List Char) :=
  match c with
  | '(' => readGroup f rest
  | ')' => .ok (.closeGroup, rest)
  | '|' => .ok (.bar, rest)
  | '?' => .ok (.repeated 0 (some 1), dropLazy rest)
  | '*' => .ok (.repeated 0 none, dropLazy rest)
  | '+' => .ok (.repeated 1 none, dropLazy rest)
  | '\x7b' => readRepetition f rest
  | '[' => do
    let (m, rest) ← readBracket f rest
    .ok (.atom (.char m.set) m.height, rest)
  | '\\' => do
    let (primitive, rest) ← readEscape f rest
    .ok (.atom (← primitive.asAtom f) 0, rest)
  | '.' => do .ok (.atom (.char (← f.dot)) 0, rest)
  | '^' => .ok (.atom (.look f.caret) 0, rest)
  | '$' => .ok (.atom (.look f.dollar) 0, rest)
  | c => do .ok (.atom (.char (← f.literal c false)) 0, rest)

end LayoutTrail.Pattern
