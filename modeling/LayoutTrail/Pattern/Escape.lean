import LayoutTrail.Pattern.Flags

/-!
# Escapes of the pattern language

What may follow a backslash: a code in hexadecimal digits, a class of characters, an assertion, or
a character that loses its special meaning.  Each reader takes the characters after the part it is
named for and gives back what it does not use.
-/

namespace LayoutTrail.Pattern

open Unicode (CharSet hexDigit?)

/-- What an escape stands for. -/
inductive Primitive
  /-- A character; `byte` if it was written with two hexadecimal digits. -/
  | literal (c : Char) (byte : Bool)
  | set (s : CharSet)
  | look (l : Look)

/-- Characters that have a meaning of their own somewhere in a pattern. -/
def metaChars : List Char :=
  ['\\', '.', '+', '*', '?', '(', ')', '|', '[', ']', '\x7b', '\x7d', '^', '$', '#', '&', '-', '~']

/-- Whether a backslash before the character makes it stand for itself. -/
def isEscapable (c : Char) : Bool :=
  metaChars.contains c ||
    (c.toNat ≤ 0x7F && !c.isAlphanum && c != '<' && c != '>')

/-- The character with a code; surrogates and codes that are too large name none. -/
def charOfDigits (digits : List Char) : Except Fault Char :=
  let code := Unicode.hexNumber digits
  if h : code.isValidChar then .ok (Char.ofNatAux code h) else .error .malformed

/-- Exactly `count` hexadecimal digits. -/
def readHexDigits (f : Flags) : Nat → List Char → Except Fault (List Char × List Char)
  | 0, cs => .ok ([], cs)
  | _ + 1, [] => .error .malformed
  | count + 1, c :: cs => do
    if (hexDigit? c).isNone then .error .malformed
    let (digits, rest) ← readHexDigits f count (f.skip cs)
    .ok (c :: digits, rest)

/-- Hexadecimal digits up to a closing brace. -/
def readBracedHex (f : Flags) (cs : List Char) : Except Fault (List Char × List Char) :=
  match _h : f.skip cs with
  | [] => .error .malformed
  | c :: rest =>
    if c == '\x7d' then .ok ([], f.skip rest)
    else if (hexDigit? c).isNone then .error .malformed
    else do
      let (digits, rest) ← readBracedHex f rest
      .ok (c :: digits, rest)
termination_by cs.length
decreasing_by exact Flags.length_lt_of_skip (by assumption)

/-- A character by its code: `count` digits, or any number of them in braces. -/
def readHex (f : Flags) (count : Nat) (cs : List Char) :
    Except Fault (Primitive × List Char) :=
  match f.skip cs with
  | [] => .error .malformed
  | '\x7b' :: rest => do
    let (digits, rest) ← readBracedHex f rest
    if digits.isEmpty then .error .malformed
    .ok (.literal (← charOfDigits digits) false, rest)
  | cs => do
    let (digits, rest) ← readHexDigits f count cs
    .ok (.literal (← charOfDigits digits) (count == 2), rest)

/-- The characters up to a closing brace. -/
def readName (f : Flags) (cs : List Char) : Except Fault (List Char × List Char) :=
  match _h : f.skip cs with
  | [] => .error .malformed
  | c :: rest =>
    if c == '\x7d' then .ok ([], rest)
    else do
      let (name, rest) ← readName f rest
      .ok (c :: name, rest)
termination_by cs.length
decreasing_by exact Flags.length_lt_of_skip (by assumption)

/-- The part before and the part after the first place where `separator` stands. -/
def splitAt? (separator : List Char) : List Char → Option (List Char × List Char)
  | [] => none
  | c :: cs =>
    if separator.isPrefixOf (c :: cs) then some ([], (c :: cs).drop separator.length)
    else (splitAt? separator cs).map fun (before, after) => (c :: before, after)

/-- The set that a property expression names: a name alone, or a name and a value. -/
def namedSet? (name : List Char) : Option CharSet :=
  match splitAt? ['!', '='] name <|> splitAt? [':'] name <|> splitAt? ['='] name with
  | some (property, value) => Unicode.setOfValue? property value
  | none => Unicode.setOfName? name

/-- The name of a property: one letter, or what stands in braces. -/
def propertyName (f : Flags) (cs : List Char) : Except Fault (List Char × List Char) :=
  match f.skip cs with
  | [] => .error .malformed
  | '\x7b' :: rest => readName f rest
  | '\\' :: _ => .error .malformed
  | c :: rest => .ok ([c], rest)

/-- The set of a property. -/
def propertySet (f : Flags) (negated : Bool) (name : List Char) : Except Fault CharSet :=
  match namedSet? name with
  | some s => if f.unicode then f.negate negated (f.fold s) else .error .malformed
  | none => .error .malformed

/-- A set by its property. -/
def readProperty (f : Flags) (negated : Bool) (cs : List Char) :
    Except Fault (Primitive × List Char) := do
  let (name, rest) ← propertyName f cs
  .ok (.set (← propertySet f negated name), rest)

/-- Digits, white space and word characters. -/
def shorthand (f : Flags) (c : Char) : CharSet :=
  if c == 'd' || c == 'D' then if f.unicode then .digit else .range 0x30 0x39
  else if c == 's' || c == 'S' then
    if f.unicode then .blank else .union (.range 0x09 0x0D) (.single ' ')
  else if f.unicode then .word else asciiWord

/-- Whether a character may stand in the name of a special word boundary. -/
def isBoundaryChar (c : Char) : Bool := c.isAlpha || c == '-'

/-- The longest run of characters of boundary names, blanks left out. -/
def boundaryName (f : Flags) (cs : List Char) : List Char × List Char :=
  match _h : f.skip cs with
  | [] => ([], [])
  | c :: rest =>
    if isBoundaryChar c then
      let (name, rest) := boundaryName f rest
      (c :: name, rest)
    else ([], c :: rest)
termination_by cs.length
decreasing_by exact Flags.length_lt_of_skip (by assumption)

/-- The special word boundary with a name. -/
def boundaryOf? (rule : WordRule) : String → Option Look
  | "start" => some (.wordStart rule)
  | "end" => some (.wordEnd rule)
  | "start-half" => some (.wordStartHalf rule)
  | "end-half" => some (.wordEndHalf rule)
  | _ => none

/-- A special word boundary after its opening brace. -/
def readBoundaryName (f : Flags) (cs : List Char) : Except Fault (Look × List Char) :=
  let (name, rest) := boundaryName f cs
  match rest with
  | '\x7d' :: rest =>
    match boundaryOf? f.wordRule (String.ofList name) with
    | some l => .ok (l, rest)
    | none => .error .malformed
  | _ => .error .malformed

/-- A word boundary, or a special one if a name in braces follows; braces that cannot hold a name
are left for the reader of repetitions. -/
def readBoundary (f : Flags) : List Char → Except Fault (Look × List Char)
  | '\x7b' :: cs =>
    if (f.skip cs).head?.any isBoundaryChar then readBoundaryName f cs
    else .ok (.boundary f.wordRule, '\x7b' :: cs)
  | cs => .ok (.boundary f.wordRule, cs)

/-- What follows a backslash. -/
def readEscape (f : Flags) : List Char → Except Fault (Primitive × List Char)
  | [] => .error .malformed
  | c :: rest =>
    if c == 'x' then readHex f 2 rest
    else if c == 'u' then readHex f 4 rest
    else if c == 'U' then readHex f 8 rest
    else if c == 'p' || c == 'P' then readProperty f (c == 'P') rest
    else if c == 'd' || c == 's' || c == 'w' then .ok (.set (shorthand f c), rest)
    else if c == 'D' || c == 'S' || c == 'W' then do
      .ok (.set (← f.negate true (shorthand f c)), rest)
    else if isEscapable c then .ok (.literal c false, rest)
    else match c with
      | 'a' => .ok (.literal '\x07' false, rest)
      | 'f' => .ok (.literal '\x0C' false, rest)
      | 't' => .ok (.literal '\t' false, rest)
      | 'n' => .ok (.literal '\n' false, rest)
      | 'r' => .ok (.literal '\r' false, rest)
      | 'v' => .ok (.literal '\x0B' false, rest)
      | 'A' => .ok (.look .textStart, rest)
      | 'z' => .ok (.look .textEnd, rest)
      | 'b' => do
        let (l, rest) ← readBoundary f rest
        .ok (.look l, rest)
      | 'B' => .ok (.look (.notBoundary f.wordRule), rest)
      | '<' => .ok (.look (.wordStart f.wordRule), rest)
      | '>' => .ok (.look (.wordEnd f.wordRule), rest)
      | _ => .error .malformed

end LayoutTrail.Pattern
