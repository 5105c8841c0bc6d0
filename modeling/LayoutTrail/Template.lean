import LayoutTrail.FieldMap
import LayoutTrail.Search.Encoding
import LayoutTrail.Search.Trail

/-!
# Templates

A template names fields and gives each the steps of a trail.  Checking a template gives an
extractor, which takes every trail through a document from its start, all at once or one after the
other; no field has a part in another.  Fields keep the order in which they were first added.
-/

namespace LayoutTrail

open Json (Decoder Record Value ReadError)

/-- Fields with their steps. -/
structure Template where
  fields : FieldMap (List StepSpec)

/-- Fields with their trails. -/
structure Extractor where
  trails : FieldMap Trail
  /-- The trails are taken all at once. -/
  parallel : Bool

/-- Fields with what was found. -/
structure Extraction where
  fields : FieldMap Target

namespace Template

/-- No fields. -/
def empty : Template := ⟨.empty⟩

/-- Adds a field, or replaces its steps. -/
def addField (t : Template) (name : String) (specs : List StepSpec) : Template :=
  ⟨t.fields.put name specs⟩

/-- Checks fields in order. -/
def compileEntries (options : Options) :
    List (String × List StepSpec) → Except Error (List (String × Trail))
  | [] => .ok []
  | (name, specs) :: rest =>
    match Trail.ofSpecs options specs with
    | .error e => .error (.field name e)
    | .ok trail =>
      match compileEntries options rest with
      | .error e => .error e
      | .ok rest => .ok ((name, trail) :: rest)

theorem names_compileEntries {options : Options} {entries : List (String × List StepSpec)}
    {trails : List (String × Trail)} (h : compileEntries options entries = .ok trails) :
    trails.map (·.1) = entries.map (·.1) := by
  induction entries generalizing trails with
  | nil => simp_all [compileEntries]
  | cons entry rest ih =>
    obtain ⟨name, specs⟩ := entry
    simp only [compileEntries] at h
    split at h
    · cases h
    · split at h
      · cases h
      · rename_i heq
        cases h
        simp [ih heq]

/-- Checks all fields. -/
def compile (t : Template) (options : Options) : Except Error Extractor :=
  match h : compileEntries options t.fields.entries with
  | .error e => .error e
  | .ok trails =>
    .ok ⟨⟨trails, by rw [names_compileEntries h]; exact t.fields.distinct⟩, options.parallel⟩

/-- A template is written with its fields in order. -/
def toJson (t : Template) : Value :=
  .object [("fields",
    .object (t.fields.entries.map fun f => (f.1, .array (f.2.map StepSpec.toJson))))]

/-- How a template is read. -/
def record : Record (Option (List (String × List StepSpec))) Template where
  name := "Template"
  fields := ["fields"]
  start := none
  has _ p := p.isSome
  read _ source t _ := (Decoder.map (Decoder.list StepSpec.decoder) source t).map some
  finish missing p := do
    let entries ← Json.required missing 0 "fields" p
    .ok ⟨.ofList entries⟩

/-- Reads a template. -/
def decoder : Decoder Template := record.decode

/-- Reads a template from a text. -/
def ofText (text : String) : Except ReadError Template := Json.decodeText decoder text

end Template

/-- Applies a function to all entries of a list at once, each in a task of its own; the results stand
in the order of the entries. -/
def mapInTasks {α β : Type} (f : α → β) (xs : List α) : List β :=
  (xs.map fun x => Task.spawn fun _ => f x).map Task.get

theorem mapInTasks_eq_map {α β : Type} (f : α → β) (xs : List α) : mapInTasks f xs = xs.map f := by
  rw [mapInTasks, List.map_map]
  rfl

namespace Extractor

/-- The names of the fields. -/
def names (e : Extractor) : List String := e.trails.names

/-- Takes the trail of every field. -/
def extract (e : Extractor) (d : Document) : Extraction :=
  let take := fun field : String × Trail => (field.1, field.2.resolve d)
  ⟨.ofList (if e.parallel then mapInTasks take e.trails.entries else e.trails.entries.map take)⟩

end Extractor

namespace Extraction

/-- The target of a field. -/
def get? (e : Extraction) (name : String) : Option Target := e.fields.get? name

/-- The text of a field that was found. -/
def value? (e : Extraction) (name : String) : Option String :=
  (e.get? name).bind fun t => if t.isFound then some t.value else none

/-- The names and texts of the fields that were found. -/
def values (e : Extraction) : List (String × String) :=
  (FieldMap.ofList
    ((e.fields.entries.filter (·.2.isFound)).map fun f => (f.1, f.2.value))).entries

/-- The number of fields that were found. -/
def foundCount (e : Extraction) : Nat := e.fields.entries.countP (·.2.isFound)

/-- A line `name: text` for every field. -/
def toText (e : Extraction) : String :=
  "\n".intercalate (e.fields.entries.map fun f => f.1 ++ ": " ++ f.2.value)

/-- An extraction is written as an object of its fields. -/
def toJson (e : Extraction) : Value :=
  .object (e.fields.entries.map fun f => (f.1, f.2.toJson))

/-- Reads an extraction. -/
def decoder : Decoder Extraction := fun source t => do
  let entries ← Decoder.map Target.decoder source t
  .ok ⟨.ofList entries⟩

/-- Reads an extraction from a text. -/
def ofText (text : String) : Except ReadError Extraction := Json.decodeText decoder text

end Extraction

end LayoutTrail
