import LayoutTrail.Unicode.Name

/-!
# Quoted text

A text in double quotes, as messages show it: what cannot be seen or would run into its neighbour
is written by its code.
-/

namespace LayoutTrail.Text

open Unicode (CharSet)

/-- Characters that are shown by their code: controls, formats, private use, unassigned code points,
separators other than the space, and marks that extend the character before them. -/
def hidden : CharSet :=
  .diff (.unionOf [.other, .separator, .graphemeExtend]) (.single ' ')

/-- A number in lower case hexadecimal digits. -/
def hex (n : Nat) : List Char := Nat.toDigits 16 n

/-- One character inside quotes. -/
def quotedChar (c : Char) : List Char :=
  match c with
  | '"' => ['\\', '"']
  | '\\' => ['\\', '\\']
  | '\n' => ['\\', 'n']
  | '\r' => ['\\', 'r']
  | '\t' => ['\\', 't']
  | '\x00' => ['\\', '0']
  | c =>
    if hidden.contains c then ['\\', 'u', '\x7b'] ++ hex c.toNat ++ ['\x7d'] else [c]

/-- A text in quotes. -/
def quoted (s : String) : String :=
  String.ofList ('"' :: (s.toList.flatMap quotedChar ++ ['"']))

end LayoutTrail.Text
