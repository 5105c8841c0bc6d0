import LayoutTrail.Json.ReadError
import LayoutTrail.Pattern.Flags

/-!
# Errors

What can be wrong with documents, steps, anchors, templates and page numbers.  A step that finds
nothing is no error.
-/

namespace LayoutTrail

/-- Why a file could not be opened or read. -/
inductive FileFault
  | missing
  | isDirectory
  | notDirectory
  /-- Its bytes are not text. -/
  | notText
  deriving DecidableEq, Repr

/-- The message for a file. -/
def FileFault.message : FileFault → String
  | missing => "No such file or directory (os error 2)"
  | isDirectory => "Is a directory (os error 21)"
  | notDirectory => "Not a directory (os error 20)"
  | notText => "stream did not contain valid UTF-8"

/-- An error. -/
inductive Error
  | file (fault : FileFault)
  | json (e : Json.ReadError)
  /-- A pattern that cannot be used. -/
  | pattern (text : String) (fault : Pattern.Fault)
  /-- A step that counts to zero. -/
  | zeroCount
  | unknownMethod (name : String)
  | unknownUnit (name : String)
  | anchor (why : String)
  | emptyTrail
  /-- A field of a template whose steps are refused. -/
  | field (name : String) (e : Error)
  | pageRange (why : String)

/-- What is wrong, without what lies behind it.  What a pattern or a text that is not JSON breaks is
not described further. -/
def Error.summary : Error → String
  | file fault => "I/O error: " ++ fault.message
  | json (.text .unreadable) => "JSON error: " ++ FileFault.isDirectory.message
  | json e => "JSON error: " ++ e.message?.getD "malformed text"
  | pattern text _ => "Invalid pattern " ++ Text.quoted text
  | zeroCount => "Invalid parser count 0: must be at least 1"
  | unknownMethod name =>
    "Invalid parser method " ++ Text.quoted name ++ ": expected \"after\" or \"below\""
  | unknownUnit name =>
    "Invalid target unit " ++ Text.quoted name ++ ": expected \"word\" or \"phrase\""
  | anchor why => "Invalid anchor: " ++ why
  | emptyTrail => "Parser chain is empty"
  | field name _ => "Invalid field " ++ Text.quoted name
  | pageRange why => "Invalid page range: " ++ why

/-- The message. -/
def Error.message : Error → String
  | field name e => (field name e).summary ++ ": " ++ e.message
  | e => e.summary

end LayoutTrail
