import LayoutTrail.Json.Number
import LayoutTrail.Text.Symbol
import LayoutTrail.Unicode.RangeTable

/-!
# Tokens of JSON texts

A text is cut into tokens from the left.  Where it stops being JSON inside a token, that token
says how it is broken and is the last one.  Two readers look at the tokens: one that needs the
value, and one that only skips it.  The skipping reader asks for less: it takes any number of the
right form however large, and any four hexadecimal digits as an escape.  So a token records where
the two differ.
-/

namespace LayoutTrail.Json

open Text (Symbol)

/-- Why a text is not JSON. -/
inductive Fault
  /-- It ends inside a value. -/
  | ended
  /-- It breaks the grammar, or holds a number or a text that cannot be kept. -/
  | malformed
  /-- It could not be read to its end. -/
  | unreadable
  deriving DecidableEq, Repr

/-- The fault met at one place by a reader that needs the value and by one that skips it. -/
structure Break where
  needed : Fault
  skipped : Fault
  deriving DecidableEq, Repr

/-- The same fault for both readers. -/
def Break.both (f : Fault) : Break := ⟨f, f⟩

/-- A token. -/
inductive Token
  | openObject
  | closeObject
  | openArray
  | closeArray
  | colon
  | comma
  | null
  | bool (b : Bool)
  /-- A number, or the fault of one that is too large. -/
  | number (n : Except Fault Number)
  /-- A text, or the fault of one that cannot be kept. -/
  | string (s : Except Fault String)
  /-- A text that breaks off. -/
  | brokenString (b : Break)
  /-- Anything else that is no token. -/
  | broken (b : Break)

/-- A token with what follows it. -/
structure Lexeme where
  token : Token
  rest : List Symbol

/-- A last token. -/
def Lexeme.last (t : Token) : Lexeme := ⟨t, []⟩

/-- Characters between tokens. -/
def isGap (c : Char) : Bool := c == ' ' || c == '\n' || c == '\t' || c == '\r'

/-- The longest run of decimal digits. -/
def scanDigits : List Symbol → List Char × List Symbol
  | .char c :: rest =>
    if c.isDigit then
      let (digits, rest) := scanDigits rest
      (c :: digits, rest)
    else ([], .char c :: rest)
  | rest => ([], rest)

/-- The token for digits that are missing where a number needs them. -/
def missingDigits (rest : List Symbol) : Lexeme :=
  .last (.broken ⟨if rest.isEmpty then .ended else .malformed, .malformed⟩)

/-- A complete number. -/
def numberLexeme (n : Numeral) (rest : List Symbol) : Lexeme :=
  ⟨.number (match n.value? with
    | some n => .ok n
    | none => .error .malformed), rest⟩

/-- The sign of an exponent, whether it is negative. -/
def scanSign : List Symbol → Bool × List Symbol
  | .char '+' :: rest => (false, rest)
  | .char '-' :: rest => (true, rest)
  | rest => (false, rest)

/-- The exponent of a number, if there is one. -/
def scanExponent (n : Numeral) : List Symbol → Lexeme
  | .char c :: rest =>
    if c == 'e' || c == 'E' then
      let sign := scanSign rest
      let power := scanDigits sign.2
      if power.1.isEmpty then missingDigits power.2
      else numberLexeme { n with exponent := some (sign.1, power.1) } power.2
    else numberLexeme n (.char c :: rest)
  | rest => numberLexeme n rest

/-- The digits after the point of a number, if there is one. -/
def scanFraction (n : Numeral) : List Symbol → Lexeme
  | .char '.' :: rest =>
    let fraction := scanDigits rest
    if fraction.1.isEmpty then missingDigits fraction.2
    else scanExponent { n with fraction := some fraction.1 } fraction.2
  | rest => scanExponent n rest

/-- Whether digits start with a zero that more digits follow. -/
def hasLeadingZero : List Char → Bool
  | '0' :: _ :: _ => true
  | _ => false

/-- A number after its sign. -/
def scanNumber (negative : Bool) (symbols : List Symbol) : Lexeme :=
  let whole := scanDigits symbols
  if whole.1.isEmpty then missingDigits whole.2
  else if hasLeadingZero whole.1 then .last (.broken (.both .malformed))
  else scanFraction ⟨negative, whole.1, none, none⟩ whole.2

/-- The character that a letter after a backslash stands for. -/
def escapedChar? : Char → Option Char
  | '"' => some '"'
  | '\\' => some '\\'
  | '/' => some '/'
  | 'b' => some '\x08'
  | 'f' => some '\x0C'
  | 'n' => some '\n'
  | 'r' => some '\r'
  | 't' => some '\t'
  | _ => none

/-- The number that symbols spell if all are hexadecimal digits. -/
def hexValue? (symbols : List Symbol) : Option Nat :=
  symbols.foldlM (fun n s => match s with
    | .char c => (Unicode.hexDigit? c).map (16 * n + ·)
    | .stray _ => none) 0

/-- How far a text has been read: its characters so far, latest first, a leading surrogate that
waits for its trailing one, whether it can no longer be kept, and whether it holds a stray byte,
which only counts once the text is complete. -/
structure StringState where
  chars : List Char := []
  leading : Option Nat := none
  spoiled : Bool := false
  stray : Bool := false

namespace StringState

/-- Adds a character; a waiting surrogate is left alone. -/
def push (st : StringState) (c : Char) : StringState :=
  { st with chars := c :: st.chars, leading := none, spoiled := st.spoiled || st.leading.isSome }

/-- Adds an escaped code unit of sixteen bits. -/
def pushUnit (st : StringState) (unit : Nat) : StringState :=
  match st.leading with
  | some high =>
    if 0xDC00 ≤ unit && unit ≤ 0xDFFF then
      { st with
        chars := Char.ofNat (0x10000 + (high - 0xD800) * 0x400 + (unit - 0xDC00)) :: st.chars
        leading := none }
    else { st with leading := none, spoiled := true }
  | none =>
    if 0xD800 ≤ unit && unit ≤ 0xDBFF then { st with leading := some unit }
    else if 0xDC00 ≤ unit && unit ≤ 0xDFFF then { st with spoiled := true }
    else { st with chars := Char.ofNat unit :: st.chars }

/-- The text at its closing quote. -/
def close (st : StringState) : Except Fault String :=
  if st.spoiled || st.stray || st.leading.isSome then .error .malformed
  else .ok (String.ofList st.chars.reverse)

/-- The token of a text that breaks off with a fault. -/
def cut (st : StringState) (f : Fault) : Lexeme :=
  .last (.brokenString ⟨if st.spoiled then .malformed else f, f⟩)

end StringState

/-- A text after its opening quote. -/
def scanString (st : StringState) : List Symbol → Lexeme
  | [] => st.cut .ended
  | .stray _ :: rest =>
    scanString { st with leading := none, spoiled := st.spoiled || st.leading.isSome, stray := true }
      rest
  | .char c :: rest =>
    if c == '"' then ⟨.string st.close, rest⟩
    else if c.toNat < 0x20 then st.cut .malformed
    else if c == '\\' then
      match rest with
      | [] => st.cut .ended
      | .stray _ :: _ => st.cut .malformed
      | .char 'u' :: s₁ :: s₂ :: s₃ :: s₄ :: rest =>
        match hexValue? [s₁, s₂, s₃, s₄] with
        | some unit => scanString (st.pushUnit unit) rest
        | none => st.cut .malformed
      | .char 'u' :: rest =>
        st.cut (if rest.foldr (fun s n => s.byteSize + n) 0 < 4 then .ended else .malformed)
      | .char e :: rest =>
        match escapedChar? e with
        | some c => scanString (st.push c) rest
        | none => st.cut .malformed
    else scanString (st.push c) rest

/-- The rest of a word such as `true`, after its first letter. -/
def scanWord (t : Token) : List Char → List Symbol → Lexeme
  | [], rest => ⟨t, rest⟩
  | _ :: _, [] => .last (.broken (.both .ended))
  | c :: cs, s :: rest =>
    if s = .char c then scanWord t cs rest else .last (.broken (.both .malformed))

/-- The token that starts with a symbol. -/
def scanToken : Symbol → List Symbol → Lexeme
  | .stray _, _ => .last (.broken (.both .malformed))
  | .char c, rest =>
    match c with
    | '\x7b' => ⟨.openObject, rest⟩
    | '\x7d' => ⟨.closeObject, rest⟩
    | '[' => ⟨.openArray, rest⟩
    | ']' => ⟨.closeArray, rest⟩
    | ':' => ⟨.colon, rest⟩
    | ',' => ⟨.comma, rest⟩
    | '"' => scanString {} rest
    | 'n' => scanWord .null ['u', 'l', 'l'] rest
    | 't' => scanWord (.bool true) ['r', 'u', 'e'] rest
    | 'f' => scanWord (.bool false) ['a', 'l', 's', 'e'] rest
    | '-' => scanNumber true rest
    | c => if c.isDigit then scanNumber false (.char c :: rest)
      else .last (.broken (.both .malformed))

theorem length_scanDigits_le (symbols : List Symbol) :
    (scanDigits symbols).2.length ≤ symbols.length := by
  fun_induction scanDigits symbols with
  | case1 c rest _ digits rest' heq ih => simp_all; omega
  | case2 => simp
  | case3 => simp

theorem scanDigits_of_isDigit {c : Char} (h : c.isDigit = true) (rest : List Symbol) :
    scanDigits (.char c :: rest) = (c :: (scanDigits rest).1, (scanDigits rest).2) := by
  simp [scanDigits, h]

theorem length_scanSign_le (symbols : List Symbol) :
    (scanSign symbols).2.length ≤ symbols.length := by
  unfold scanSign
  split <;> simp

theorem length_missingDigits (symbols : List Symbol) : (missingDigits symbols).rest.length = 0 := rfl

theorem length_scanExponent_le (n : Numeral) (symbols : List Symbol) :
    (scanExponent n symbols).rest.length ≤ symbols.length := by
  unfold scanExponent
  split
  · rename_i c rest
    have h₁ := length_scanSign_le rest
    have h₂ := length_scanDigits_le (scanSign rest).2
    split
    · dsimp only
      split
      · simp [length_missingDigits]
      · simp only [numberLexeme, List.length_cons]
        omega
    · simp [numberLexeme]
  · simp [numberLexeme]

theorem length_scanFraction_le (n : Numeral) (symbols : List Symbol) :
    (scanFraction n symbols).rest.length ≤ symbols.length := by
  unfold scanFraction
  split
  · rename_i rest
    have h₁ := length_scanDigits_le rest
    dsimp only
    split
    · simp [length_missingDigits]
    · have h₂ := length_scanExponent_le { n with fraction := some (scanDigits rest).1 }
        (scanDigits rest).2
      simp only [List.length_cons]
      omega
  · exact length_scanExponent_le _ _

theorem length_scanNumber_le (negative : Bool) (symbols : List Symbol) :
    (scanNumber negative symbols).rest.length ≤ (scanDigits symbols).2.length := by
  unfold scanNumber
  dsimp only
  split
  · simp [length_missingDigits]
  · split
    · simp [Lexeme.last]
    · exact length_scanFraction_le _ _

theorem length_scanString_le (st : StringState) (symbols : List Symbol) :
    (scanString st symbols).rest.length ≤ symbols.length := by
  fun_induction scanString st symbols <;>
    simp_all [StringState.cut, Lexeme.last] <;> omega

theorem length_scanWord_le (t : Token) (cs : List Char) (symbols : List Symbol) :
    (scanWord t cs symbols).rest.length ≤ symbols.length := by
  fun_induction scanWord t cs symbols <;> simp_all [Lexeme.last]
  omega

/-- A token leaves less to read. -/
theorem length_scanToken_le (s : Symbol) (symbols : List Symbol) :
    (scanToken s symbols).rest.length ≤ symbols.length := by
  unfold scanToken
  split
  · simp [Lexeme.last]
  · split <;> try simp only [Nat.le_refl]
    · exact length_scanString_le _ _
    · exact length_scanWord_le _ _ _
    · exact length_scanWord_le _ _ _
    · exact length_scanWord_le _ _ _
    · exact Nat.le_trans (length_scanNumber_le _ _) (length_scanDigits_le _)
    · rename_i c _ _ _ _ _ _ _ _ _ _ _
      split
      · rename_i h
        refine Nat.le_trans (length_scanNumber_le _ _) ?_
        rw [scanDigits_of_isDigit h]
        exact length_scanDigits_le _
      · simp [Lexeme.last]

/-- The tokens of a text. -/
def tokens : List Symbol → List Token
  | [] => []
  | s :: rest =>
    match s with
    | .char c =>
      if isGap c then tokens rest
      else
        let lexeme := scanToken (.char c) rest
        lexeme.token :: tokens lexeme.rest
    | .stray b => [(scanToken (.stray b) rest).token]
termination_by symbols => symbols.length
decreasing_by
  · simp
  · have := length_scanToken_le (.char c) rest
    simp only [List.length_cons]
    omega

end LayoutTrail.Json
