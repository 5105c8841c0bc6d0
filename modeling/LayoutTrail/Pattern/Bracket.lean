import LayoutTrail.Pattern.Escape

/-!
# Bracketed classes

A class in brackets is a union of characters, ranges, named sets and further classes, or several
unions joined by `&&`, `--` and `~~`, which bind to the left and with equal strength.  The reader
keeps one level for each open bracket.  Beside each set stands its height, the number of nested
constructs, since a pattern may nest only so deep.
-/

namespace LayoutTrail.Pattern

open Unicode (CharSet)

/-- An operation between two unions. -/
inductive SetOp
  | inter
  | diff
  | symmDiff
  deriving DecidableEq, Repr

/-- The operation that is written as the character twice. -/
def SetOp.ofChar? : Char → Option SetOp
  | '&' => some inter
  | '-' => some diff
  | '~' => some symmDiff
  | _ => none

/-- The result of an operation. -/
def SetOp.apply : SetOp → CharSet → CharSet → CharSet
  | inter, a, b => .inter a b
  | diff, a, b => .diff a b
  | symmDiff, a, b => .symmDiff a b

/-- A set with its height. -/
structure Measured where
  set : CharSet
  height : Nat

/-- The union of the items of one level; a single item adds no height. -/
def Measured.union : List Measured → Measured
  | [] => ⟨.empty, 0⟩
  | [m] => m
  | ms => ⟨.unionOf (ms.map (·.set)), 1 + (ms.map (·.height)).foldl max 0⟩

/-- An open bracket: the items of the union being read, latest first, and the operation that waits
for it with its left side. -/
structure Level where
  negated : Bool
  items : List Measured
  pending : Option (SetOp × Measured)

namespace Level

/-- Adds an item. -/
def add (level : Level) (item : Measured) : Level := { level with items := item :: level.items }

/-- What has been read of the level, with the waiting operation done; case is closed on both sides
of an operation. -/
def value (f : Flags) (level : Level) : Measured :=
  let right := Measured.union level.items.reverse
  match level.pending with
  | none => right
  | some (op, left) =>
    ⟨op.apply (f.fold left.set) (f.fold right.set), 1 + max left.height right.height⟩

/-- Starts a new union after an operation. -/
def operate (f : Flags) (op : SetOp) (level : Level) : Level :=
  { level with items := [], pending := some (op, level.value f) }

/-- The set of a level at its closing bracket. -/
def close (f : Flags) (level : Level) : Except Fault Measured := do
  let m := level.value f
  .ok ⟨← f.negate level.negated (f.fold m.set), m.height + 1⟩

end Level

/-- The classes of ASCII characters by name. -/
def asciiClass? : List Char → Option CharSet
  | ['a', 'l', 'n', 'u', 'm'] =>
    some (.unionOf [.range 0x30 0x39, .range 0x41 0x5A, .range 0x61 0x7A])
  | ['a', 'l', 'p', 'h', 'a'] => some (.union (.range 0x41 0x5A) (.range 0x61 0x7A))
  | ['a', 's', 'c', 'i', 'i'] => some (.range 0 0x7F)
  | ['b', 'l', 'a', 'n', 'k'] => some (.union (.single '\t') (.single ' '))
  | ['c', 'n', 't', 'r', 'l'] => some (.union (.range 0 0x1F) (.range 0x7F 0x7F))
  | ['d', 'i', 'g', 'i', 't'] => some (.range 0x30 0x39)
  | ['g', 'r', 'a', 'p', 'h'] => some (.range 0x21 0x7E)
  | ['l', 'o', 'w', 'e', 'r'] => some (.range 0x61 0x7A)
  | ['p', 'r', 'i', 'n', 't'] => some (.range 0x20 0x7E)
  | ['p', 'u', 'n', 'c', 't'] =>
    some (.unionOf [.range 0x21 0x2F, .range 0x3A 0x40, .range 0x5B 0x60, .range 0x7B 0x7E])
  | ['s', 'p', 'a', 'c', 'e'] => some (.union (.range 0x09 0x0D) (.single ' '))
  | ['u', 'p', 'p', 'e', 'r'] => some (.range 0x41 0x5A)
  | ['w', 'o', 'r', 'd'] => some asciiWord
  | ['x', 'd', 'i', 'g', 'i', 't'] =>
    some (.unionOf [.range 0x30 0x39, .range 0x41 0x46, .range 0x61 0x66])
  | _ => none

/-- A class by its name up to the colon and bracket that close it. -/
def namedAsciiClass? (cs : List Char) : Option (CharSet × List Char) :=
  match splitAt? [':'] cs with
  | some (name, ']' :: rest) => (asciiClass? name).map (·, rest)
  | _ => none

/-- A class such as `[:alpha:]` or `[:^alpha:]` after its opening bracket: its set, whether it is
negated, and what follows. -/
def readAsciiClass? : List Char → Option ((CharSet × Bool) × List Char)
  | ':' :: '^' :: cs => (namedAsciiClass? cs).map fun (s, rest) => ((s, true), rest)
  | ':' :: cs => (namedAsciiClass? cs).map fun (s, rest) => ((s, false), rest)
  | _ => none

/-- Takes the hyphens that open a class; each stands for itself. -/
def openingHyphens (f : Flags) (level : Level) (cs : List Char) : Level × List Char :=
  match _h : f.skip cs with
  | '-' :: rest => openingHyphens f (level.add ⟨.single '-', 0⟩) rest
  | cs => (level, cs)
termination_by cs.length
decreasing_by exact Flags.length_lt_of_skip (by assumption)

/-- Whether a caret opens a class, and what follows it. -/
def openingCaret (f : Flags) (cs : List Char) : Bool × List Char :=
  match f.skip cs with
  | '^' :: rest => (true, rest)
  | cs => (false, cs)

/-- A closing bracket that comes first in a class stands for itself. -/
def openingBracket (level : Level) : List Char → Level × List Char
  | ']' :: rest =>
    if level.items.isEmpty then (level.add ⟨.single ']', 0⟩, rest) else (level, ']' :: rest)
  | cs => (level, cs)

/-- The level of a class after its opening bracket. -/
def openLevel (f : Flags) (cs : List Char) : Level × List Char :=
  let (negated, cs) := openingCaret f cs
  let (level, cs) := openingHyphens f ⟨negated, [], none⟩ cs
  openingBracket level cs

/-- The next character that is neither blank nor starts a comment; only used to tell whether a
hyphen is followed by a bracket or a hyphen. -/
def peekVisible (f : Flags) (cs : List Char) : Option Char :=
  if f.spaced then
    match cs.dropWhile isBlank with
    | '#' :: rest => (rest.dropWhile isBlank).head?
    | cs => cs.head?
  else cs.head?

/-- One end of a range, or an item of its own. -/
def readMember (f : Flags) : List Char → Except Fault (Primitive × List Char)
  | [] => .error .malformed
  | '\\' :: rest => readEscape f rest
  | c :: rest => .ok (.literal c false, rest)

/-- The set of an item that is no range. -/
def Primitive.asItem (f : Flags) : Primitive → Except Fault CharSet
  | literal c byte =>
    if !f.unicode && byte && c.toNat > 0x7F then .error .malformed
    else do
      let n ← f.member c
      .ok (.range n n)
  | set s => .ok s
  | look _ => .error .malformed

/-- The code point of an end of a range. -/
def Primitive.asEnd (f : Flags) : Primitive → Except Fault Nat
  | literal c _ => f.member c
  | _ => .error .malformed

/-- A range, after the hyphen that follows its first end. -/
def readRange (f : Flags) (first : Primitive) (cs : List Char) :
    Except Fault (CharSet × List Char) := do
  let (last, rest) ← readMember f (f.skip cs)
  let low ← first.asEnd f
  let high ← last.asEnd f
  if high < low then .error .malformed else .ok (.range low high, rest)

/-- A character, a range or a named set. -/
def readItem (f : Flags) (cs : List Char) : Except Fault (CharSet × List Char) := do
  let (first, rest) ← readMember f cs
  match f.skip rest with
  | '-' :: after =>
    if peekVisible f after == some ']' || peekVisible f after == some '-' then
      .ok (← first.asItem f, '-' :: after)
    else readRange f first after
  | rest => .ok (← first.asItem f, rest)

/-- What one step in a class leads to. -/
inductive BracketStep
  | inside (level : Level) (outer : List Level)
  | done (m : Measured)

/-- An opening bracket: a class by its name, or a level of its own. -/
def openStep (f : Flags) (level : Level) (outer : List Level) (cs : List Char) :
    Except Fault (BracketStep × List Char) :=
  match readAsciiClass? cs with
  | some ((s, negated), rest) => do
    let item ← f.negate negated (f.fold s)
    .ok (.inside (level.add ⟨item, 0⟩) outer, rest)
  | none =>
    let (inner, rest) := openLevel f cs
    .ok (.inside inner (level :: outer), rest)

/-- A closing bracket. -/
def closeStep (f : Flags) (level : Level) (outer : List Level) : Except Fault BracketStep := do
  let m ← level.close f
  match outer with
  | [] => .ok (.done m)
  | parent :: outer => .ok (.inside (parent.add m) outer)

/-- An item. -/
def itemStep (f : Flags) (level : Level) (outer : List Level) (cs : List Char) :
    Except Fault (BracketStep × List Char) := do
  let (s, rest) ← readItem f cs
  .ok (.inside (level.add ⟨s, 0⟩) outer, rest)

/-- One item, operation or bracket, whose first character is `c`. -/
def bracketStep (f : Flags) (level : Level) (outer : List Level) (c : Char) (cs : List Char) :
    Except Fault (BracketStep × List Char) :=
  if c == '[' then openStep f level outer cs
  else if c == ']' then do .ok (← closeStep f level outer, cs)
  else match SetOp.ofChar? c with
    | some op =>
      if cs.head? == some c then .ok (.inside (level.operate f op) outer, cs.tail)
      else itemStep f level outer (c :: cs)
    | none => itemStep f level outer (c :: cs)

/-- Reads on to the bracket that closes the outermost level.  Every step leaves less to read. -/
def readLevels (f : Flags) (level : Level) (outer : List Level) (cs : List Char) :
    Except Fault (Measured × List Char) :=
  match f.skip cs with
  | [] => .error .malformed
  | c :: rest =>
    match bracketStep f level outer c rest with
    | .error e => .error e
    | .ok (.done m, rest) => .ok (m, rest)
    | .ok (.inside level outer, rest) =>
      if rest.length < cs.length then readLevels f level outer rest else .error .malformed
termination_by cs.length

/-- A class after its opening bracket. -/
def readBracket (f : Flags) (cs : List Char) : Except Fault (Measured × List Char) :=
  let (level, rest) := openLevel f cs
  readLevels f level [] rest

end LayoutTrail.Pattern
