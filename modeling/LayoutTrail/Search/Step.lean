import LayoutTrail.Error
import LayoutTrail.Pattern.Reader

/-!
# Steps

A step says what to look for next: the how-manieth word or phrase that matches a pattern, either
anywhere after the anchor or below it.  A step can be used once its count is not zero and its
pattern has been read.
-/

namespace LayoutTrail

/-- Where a step looks. -/
inductive Method
  /-- At everything that comes later. -/
  | after
  /-- At one thing in each line that overlaps the anchor horizontally. -/
  | below
  deriving DecidableEq, Repr

/-- What a step looks for. -/
inductive TextUnit
  | word
  | phrase
  deriving DecidableEq, Repr

/-- The name of a method. -/
def Method.name : Method → String
  | after => "after"
  | below => "below"

/-- The name of a unit. -/
def TextUnit.name : TextUnit → String
  | word => "word"
  | phrase => "phrase"

/-- The method with a name. -/
def Method.ofName (name : String) : Except Error Method :=
  if name = "after" then .ok .after
  else if name = "below" then .ok .below
  else .error (.unknownMethod name)

/-- The unit with a name. -/
def TextUnit.ofName (name : String) : Except Error TextUnit :=
  if name = "word" then .ok .word
  else if name = "phrase" then .ok .phrase
  else .error (.unknownUnit name)

@[simp] theorem Method.ofName_name (m : Method) : Method.ofName m.name = .ok m := by
  cases m <;> rfl

@[simp] theorem TextUnit.ofName_name (u : TextUnit) : TextUnit.ofName u.name = .ok u := by
  cases u <;> rfl

/-- A step as it is written. -/
structure StepSpec where
  count : UInt32
  method : Method
  pattern : String
  unit : TextUnit
  deriving DecidableEq, Repr

/-- How steps are used. -/
structure Options where
  /-- Letters match in either case. -/
  ignoreCase : Bool := false
  /-- Several documents or fields may be worked on at once; the answers are the same. -/
  parallel : Bool := true
  deriving DecidableEq, Repr

/-- A step that can be used. -/
structure Step where
  count : Nat
  method : Method
  unit : TextUnit
  pattern : Pattern
  count_pos : 0 < count

/-- Checks a step; its count is looked at before its pattern. -/
def Step.ofSpec (options : Options) (spec : StepSpec) : Except Error Step :=
  if h : 0 < spec.count.toNat then
    match Pattern.readAnchored options.ignoreCase spec.pattern with
    | .ok pattern => .ok ⟨spec.count.toNat, spec.method, spec.unit, pattern, h⟩
    | .error fault => .error (.pattern spec.pattern fault)
  else .error .zeroCount

/-- Whether the pattern of the step is found in a text.  The anchors that tie it to the whole text are
parts of the pattern. -/
def Step.accepts (step : Step) (text : String) : Bool := step.pattern.occursIn text

end LayoutTrail
