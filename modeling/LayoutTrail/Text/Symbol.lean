/-!
# Bytes as characters

A sequence of bytes read as UTF-8: the characters that are well encoded, and the bytes that belong
to none.
-/

namespace LayoutTrail.Text

/-- A character of a byte sequence, or a byte that belongs to no character. -/
inductive Symbol
  | char (c : Char)
  | stray (byte : UInt8)
  deriving DecidableEq, Repr

namespace Symbol

/-- The characters of a text. -/
def ofText (s : String) : List Symbol := s.toList.map .char

/-- The number of bytes. -/
def byteSize : Symbol → Nat
  | char c => c.utf8Size
  | stray _ => 1

/-- The number that the continuation bytes add to, six bits each, or `none` if a byte is not one. -/
def continued (value : Nat) : List UInt8 → Option Nat
  | [] => some value
  | b :: bs =>
    if 0x80 ≤ b.toNat && b.toNat < 0xC0 then continued (64 * value + (b.toNat - 0x80)) bs else none

/-- The character that the byte `first` starts, and how many of the bytes after it belong to it.
The least code for a length rules out longer encodings than needed. -/
def decodeAt (first : UInt8) (rest : List UInt8) : Option (Char × Nat) :=
  let b := first.toNat
  let (lead, length, least) :=
    if b < 0x80 then (b, 0, 0)
    else if 0xC0 ≤ b && b < 0xE0 then (b - 0xC0, 1, 0x80)
    else if 0xE0 ≤ b && b < 0xF0 then (b - 0xE0, 2, 0x800)
    else if 0xF0 ≤ b && b < 0xF8 then (b - 0xF0, 3, 0x10000)
    else (0, 0, 1)
  let tail := rest.take length
  if tail.length < length then none
  else
    match continued lead tail with
    | none => none
    | some code =>
      if h : code.isValidChar then
        if least ≤ code then some (Char.ofNatAux code h, length) else none
      else none

/-- The symbols of a byte sequence. -/
def ofBytes : List UInt8 → List Symbol
  | [] => []
  | b :: bs =>
    match decodeAt b bs with
    | some (c, length) => char c :: ofBytes (bs.drop length)
    | none => stray b :: ofBytes bs
termination_by bytes => bytes.length
decreasing_by
  · simp only [List.length_drop, List.length_cons]; omega
  · simp

/-- The text of symbols that are all characters. -/
def text? (symbols : List Symbol) : Option String :=
  (symbols.mapM fun
    | char c => some c
    | stray _ => none).map String.ofList

end Symbol

end LayoutTrail.Text
