import LayoutTrail.Json.Tree

/-!
# JSON values

A complete value.  Objects keep the order of their members, which is the order of printing; reading
a text as a value puts the members of every object in the order of their names and keeps the last
of several members with one name.
-/

namespace LayoutTrail.Json

/-- A value. -/
inductive Value
  | null
  | bool (b : Bool)
  | number (n : Number)
  | string (s : String)
  | array (items : List Value)
  | object (members : List (String × Value))

namespace Value

/-- A natural number. -/
def nat (n : Nat) : Value := number (.integer n)

/-- A float; one that is not finite has no text and becomes `null`. -/
def float (x : Float) : Value := if x.isFinite then number (.float x) else null

/-- Puts a member in its place among members ordered by name, in place of one with its name. -/
def insertMember (name : String) (v : Value) : List (String × Value) → List (String × Value)
  | [] => [(name, v)]
  | (name', v') :: rest =>
    if name < name' then (name, v) :: (name', v') :: rest
    else if name = name' then (name, v) :: rest
    else (name', v') :: insertMember name v rest

/-- Members in the order of their names; of several with one name the last remains. -/
def orderMembers (members : List (String × Value)) : List (String × Value) :=
  members.foldl (fun ordered m => insertMember m.1 m.2 ordered) []

mutual

/-- The value with the members of all its objects in order. -/
def ordered : Value → Value
  | array items => array (orderedItems items)
  | object members => object (orderMembers (orderedMembers members))
  | v => v

/-- The items with their objects in order. -/
def orderedItems : List Value → List Value
  | [] => []
  | v :: rest => ordered v :: orderedItems rest

/-- The members with the objects of their values in order. -/
def orderedMembers : List (String × Value) → List (String × Value)
  | [] => []
  | (name, v) :: rest => (name, ordered v) :: orderedMembers rest

end

mutual

/-- The tree of the text of the value. -/
def toTree : Value → Tree
  | null => .null
  | bool b => .bool b
  | number n => .number (.ok n)
  | string s => .string (.ok s)
  | array items => .array (itemTrees items) none
  | object members => .object (memberTrees members) none

/-- The trees of items. -/
def itemTrees : List Value → List Tree
  | [] => []
  | v :: rest => toTree v :: itemTrees rest

/-- The trees of members. -/
def memberTrees : List (String × Value) → List (Name × Tree)
  | [] => []
  | (name, v) :: rest => (.ok name, toTree v) :: memberTrees rest

end

/-- The value of a member. -/
def member? (name : String) : Value → Option Value
  | object members => (members.find? (·.1 = name)).map (·.2)
  | _ => none

end Value

/-- How many containers may be open at once in a text that is read as a value. -/
def maxDepth : Nat := 127

namespace Tree

/-- The fault that ends a container. -/
def cutFault : Option Break → Except Fault Unit
  | none => .ok ()
  | some b => .error b.needed

mutual

/-- The value of a tree that allows `depth` more open containers. -/
def toValue (depth : Nat) : Tree → Except Fault Value
  | .null => .ok .null
  | .bool b => .ok (.bool b)
  | .number n => n.map .number
  | .string s => s.map .string
  | .array items cut =>
    match depth with
    | 0 => .error .malformed
    | depth + 1 => do
      let items ← itemValues depth items
      cutFault cut
      .ok (.array items)
  | .object members cut =>
    match depth with
    | 0 => .error .malformed
    | depth + 1 => do
      let members ← memberValues depth members
      cutFault cut
      .ok (.object (Value.orderMembers members))
  | .fault b => .error b.needed

/-- The values of items. -/
def itemValues (depth : Nat) : List Tree → Except Fault (List Value)
  | [] => .ok []
  | v :: rest => do
    let v ← toValue depth v
    let rest ← itemValues depth rest
    .ok (v :: rest)

/-- The values of members. -/
def memberValues (depth : Nat) : List (Name × Tree) → Except Fault (List (String × Value))
  | [] => .ok []
  | (name, v) :: rest => do
    let name ← name
    let v ← toValue depth v
    let rest ← memberValues depth rest
    .ok ((name, v) :: rest)

end

/-- The value of a text that holds one value and nothing else. -/
def Reading.toValue (r : Reading) : Except Fault Value := do
  let v ← r.tree.toValue maxDepth
  if r.trailing then .error .malformed
  .ok v

end Tree

/-- Reads a text as a value. -/
def Value.ofText (text : String) : Except Fault Value := (Tree.ofText text).toValue

/-- Reads a byte sequence as a value. -/
def Value.ofSymbols (symbols : List Text.Symbol) : Except Fault Value :=
  (Tree.ofSymbols symbols).toValue

end LayoutTrail.Json
