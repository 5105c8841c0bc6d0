import LayoutTrail.Json.Value
import LayoutTrail.Text.Quoted

/-!
# Why a text could not be read

Either the text is not JSON, or it is JSON of the wrong shape.
-/

namespace LayoutTrail.Json

/-- What stands where something else is expected. -/
inductive Found
  | null
  | bool (b : Bool)
  | number (n : Number)
  | string (s : String)
  | sequence
  | map

/-- Why a text could not be read. -/
inductive ReadError
  /-- It is not JSON. -/
  | text (f : Fault)
  | missingField (name : String)
  | duplicateField (name : String)
  | wrongType (found : Found) (expected : String)
  /-- An integer that is out of range. -/
  | wrongValue (found : Found) (expected : String)
  | wrongLength (n : Nat) (expected : String)
  /-- The shape is right, but the value is refused. -/
  | refused (why : String)

/-- What was found, in words. -/
def Found.describe : Found → String
  | null => "null"
  | bool b => "boolean `" ++ (if b then "true" else "false") ++ "`"
  | number (.integer n) => "integer `" ++ String.ofList (Number.integer n).render ++ "`"
  | number (.float x) => "floating point `" ++ String.ofList (Number.float x).render ++ "`"
  | string s => "string " ++ Text.quoted s
  | sequence => "sequence"
  | map => "map"

/-- The message for a value of the wrong shape; a text that is not JSON has none of its own. -/
def ReadError.message? : ReadError → Option String
  | text _ => none
  | missingField name => some ("missing field `" ++ name ++ "`")
  | duplicateField name => some ("duplicate field `" ++ name ++ "`")
  | wrongType found expected =>
    some ("invalid type: " ++ found.describe ++ ", expected " ++ expected)
  | wrongValue found expected =>
    some ("invalid value: " ++ found.describe ++ ", expected " ++ expected)
  | wrongLength n expected =>
    some ("invalid length " ++ toString n ++ ", expected " ++ expected)
  | refused why => some why

end LayoutTrail.Json
