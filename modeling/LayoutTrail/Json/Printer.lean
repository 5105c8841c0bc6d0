import LayoutTrail.Json.Value

/-!
# Printing JSON values

The two layouts of a value: without any gaps, and with every member and item on its own line.
-/

namespace LayoutTrail.Json

/-- How a value is laid out. -/
inductive Layout
  | pretty
  | compact
  deriving DecidableEq, Repr

/-- A code below 16 as a hexadecimal digit. -/
def lowerDigit (n : Nat) : Char := Nat.digitChar n

/-- One character inside quotes.  Control characters without a letter of their own are written as
four digits. -/
def escapedChar (c : Char) : List Char :=
  match c with
  | '"' => ['\\', '"']
  | '\\' => ['\\', '\\']
  | '\x08' => ['\\', 'b']
  | '\x0C' => ['\\', 'f']
  | '\n' => ['\\', 'n']
  | '\r' => ['\\', 'r']
  | '\t' => ['\\', 't']
  | c =>
    if c.toNat < 0x20 then
      ['\\', 'u', '0', '0', lowerDigit (c.toNat / 16), lowerDigit (c.toNat % 16)]
    else [c]

/-- A text in quotes. -/
def quotedChars (s : String) : List Char := '"' :: (s.toList.flatMap escapedChar ++ ['"'])

/-- A line end and the indentation of a level, in the layout that has them. -/
def Layout.newLine (layout : Layout) (level : Nat) : List Char :=
  match layout with
  | pretty => '\n' :: List.replicate (2 * level) ' '
  | compact => []

/-- What stands between a name and its value. -/
def Layout.colon : Layout → List Char
  | pretty => [':', ' ']
  | compact => [':']

namespace Value

mutual

/-- The characters of a value inside `level` containers. -/
def render (layout : Layout) (level : Nat) : Value → List Char
  | null => ['n', 'u', 'l', 'l']
  | bool true => ['t', 'r', 'u', 'e']
  | bool false => ['f', 'a', 'l', 's', 'e']
  | number n => n.render
  | string s => quotedChars s
  | array [] => ['[', ']']
  | array (v :: rest) =>
    '[' :: (layout.newLine (level + 1) ++ (render layout (level + 1) v ++
      (renderItems layout (level + 1) rest ++ (layout.newLine level ++ [']']))))
  | object [] => ['\x7b', '\x7d']
  | object ((name, v) :: rest) =>
    '\x7b' :: (layout.newLine (level + 1) ++ (quotedChars name ++ (layout.colon ++
      (render layout (level + 1) v ++
        (renderMembers layout (level + 1) rest ++ (layout.newLine level ++ ['\x7d']))))))

/-- The items after the first, each after a comma. -/
def renderItems (layout : Layout) (level : Nat) : List Value → List Char
  | [] => []
  | v :: rest =>
    ',' :: (layout.newLine level ++ (render layout level v ++ renderItems layout level rest))

/-- The members after the first, each after a comma. -/
def renderMembers (layout : Layout) (level : Nat) : List (String × Value) → List Char
  | [] => []
  | (name, v) :: rest =>
    ',' :: (layout.newLine level ++ (quotedChars name ++ (layout.colon ++
      (render layout level v ++ renderMembers layout level rest))))

end

/-- The text of a value. -/
def toText (layout : Layout) (v : Value) : String := String.ofList (v.render layout 0)

end Value

end LayoutTrail.Json
