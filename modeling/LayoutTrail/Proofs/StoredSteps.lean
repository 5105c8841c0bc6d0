import LayoutTrail.Proofs.Json.MemberOrder
import LayoutTrail.Proofs.Json.Refusals
import LayoutTrail.Proofs.StoredTemplates

/-!
# Stored steps

Steps are read by way of a value, so the members of every object come in the order of their names
when they are looked at.  The members of a step are written in this order.  A list of steps is read
back as it was, and a single step as the list of that step; what is not a list is read as it would be
between brackets, and also refused as it would be there.
-/

namespace LayoutTrail

open Json (Decoder Record Value Source Layout ReadError HoldsValue TextAccepted textAccepted_ok
  textAccepted_required)

theorem textAccepted_nameDecoder {α : Type} (ofName : String → Except Error α) {source : Source}
    (v : Value) : TextAccepted (nameDecoder ofName source v.toTree) :=
  Decoder.textAccepted_checked (Decoder.textAccepted_string v) _

namespace StepSpec

/-! ## What was written -/

theorem depth_toJson (s : StepSpec) : s.toJson.depth = 2 := rfl

theorem ordered_target (pattern unit : String) :
    (Value.object [("pattern", .string pattern), ("unit", .string unit)]).ordered =
      .object [("pattern", .string pattern), ("unit", .string unit)] := by
  have hnames : ["pattern", "unit"].Pairwise (· < ·) := by decide
  rw [Value.ordered_object_eq_self_iff]
  refine ⟨List.pairwise_map.mp hnames, ?_⟩
  simp only [List.forall_mem_cons]
  exact ⟨rfl, rfl, nofun⟩

/-- The members of a step are written in the order of their names. -/
theorem ordered_toJson (s : StepSpec) : s.toJson.ordered = s.toJson := by
  have hnames : ["count", "method", "target"].Pairwise (· < ·) := by decide
  rw [toJson, Value.ordered_object_eq_self_iff]
  refine ⟨List.pairwise_map.mp hnames, ?_⟩
  simp only [List.forall_mem_cons, ordered_target]
  exact ⟨rfl, rfl, trivial, nofun⟩

theorem ofJson_toJson (s : StepSpec) : ofJson s.toJson = .ok s := by
  rw [ofJson, Json.decodeValue, ordered_toJson]
  exact s.decoder_toJson

theorem listOfText_of_ofText {text : String} {v : Value} (h : Value.ofText text = .ok v) :
    listOfText text = listOfJson v := by
  rw [listOfText, h]
  rfl

theorem listOfText_list (specs : List StepSpec) (layout : Layout) :
    listOfText ((Value.array (specs.map toJson)).toText layout) = .ok specs := by
  have hreadable : (Value.array (specs.map toJson)).Readable :=
    Value.readable_array_map specs fun s _ => s.readable_toJson
  have hdepth : (Value.array (specs.map toJson)).depth ≤ 3 :=
    Value.depth_array_map_le specs fun s _ => Nat.le_of_eq s.depth_toJson
  have hordered : (Value.array (specs.map toJson)).ordered = .array (specs.map toJson) := by
    rw [Value.ordered_array_map, funext ordered_toJson]
  have hread := Value.ofText_eq_ordered layout hreadable (Nat.le_trans hdepth (by decide))
  rw [hordered] at hread
  rw [listOfText_of_ofText hread, listOfJson, Json.decodeValue, hordered, list_toJson]

/-! ## One step or a list of one -/

theorem listOfJson_of_not_array {v : Value} (h : ∀ items, v ≠ .array items) :
    listOfJson v = (ofJson v).map fun s => [s] := by
  cases v with
  | array items => exact absurd rfl (h items)
  | null | bool | number | string | object => rfl

theorem listOfJson_singleton (v : Value) :
    listOfJson (.array [v]) = (ofJson v).map fun s => [s] :=
  Decoder.list_singleton decoder .value v.ordered.toTree

theorem listOfText_one (s : StepSpec) (layout : Layout) :
    listOfText (s.toJson.toText layout) = .ok [s] := by
  have hread := Value.ofText_eq_ordered layout s.readable_toJson
    (s.depth_toJson ▸ (by decide : 2 ≤ Json.maxDepth))
  rw [ordered_toJson] at hread
  rw [listOfText_of_ofText hread, listOfJson_of_not_array fun items h => Value.noConfusion h,
    ofJson_toJson]
  rfl

/-! ## What is refused -/

theorem acceptsText_targetRecord : targetRecord.AcceptsText where
  read name v parts := by
    simp only [targetRecord]
    split
    · exact (Decoder.textAccepted_string v).bind fun _ => textAccepted_ok _
    · exact (textAccepted_nameDecoder _ v).bind fun _ => textAccepted_ok _
  finish missing parts h :=
    (textAccepted_required (h 0 _) parts.pattern).bind fun _ =>
      (textAccepted_required (h 1 _) parts.unit).bind fun _ => textAccepted_ok _

theorem acceptsText_record : record.AcceptsText where
  read name v parts := by
    simp only [record]
    split
    · exact (Decoder.textAccepted_natBelow _ _ v).bind fun _ => textAccepted_ok _
    · split
      · exact (textAccepted_nameDecoder _ v).bind fun _ => textAccepted_ok _
      · exact (acceptsText_targetRecord.decode v).bind fun _ => textAccepted_ok _
  finish missing parts h :=
    (textAccepted_required (h 0 _) parts.count).bind fun _ =>
      (textAccepted_required (h 1 _) parts.method).bind fun _ =>
        (textAccepted_required (h 2 _) parts.target).bind fun _ => textAccepted_ok _

/-- A value that is not a step is refused for what it holds. -/
theorem textAccepted_ofJson (v : Value) : TextAccepted (ofJson v) :=
  acceptsText_record.decode v.ordered

/-- A list of steps is read back from its text as it was, and a single step as the list of that step.
A text that holds anything but an array is read with or without brackets around it to the same
result, the list of one step or an error that is not about the text; the bound is one less than the
reader allows, since the brackets are one more container. -/
theorem listOfText_one_or_many :
    (∀ specs layout, listOfText ((Value.array (specs.map toJson)).toText layout) = .ok specs) ∧
    (∀ s layout, listOfText (s.toJson.toText layout) = .ok [s]) ∧
    ∀ text v, HoldsValue 126 text → Value.ofText text = .ok v → (∀ items, v ≠ .array items) →
      listOfText ("[" ++ text ++ "]") = listOfText text ∧
        ((∃ s, listOfText text = .ok [s]) ∨
          ∃ e, listOfText text = .error e ∧ ∀ f, e ≠ .text f) := by
  refine ⟨listOfText_list, listOfText_one, fun text v hholds hv hother => ?_⟩
  have hone : listOfText text = (ofJson v).map fun s => [s] := by
    rw [listOfText_of_ofText hv, listOfJson_of_not_array hother]
  have hbracketed : Value.ofText ("[" ++ text ++ "]") = .ok (.array [v]) :=
    Value.ofText_bracketed hholds (by decide) hv
  refine ⟨?_, ?_⟩
  · rw [hone, listOfText_of_ofText hbracketed, listOfJson_singleton]
  · rw [hone]
    cases hstep : ofJson v with
    | ok s => exact Or.inl ⟨s, rfl⟩
    | error e => exact Or.inr ⟨e, rfl, fun f he => textAccepted_ofJson v f (he ▸ hstep)⟩

/-- All three members are wrong.  With or without brackets the error is about the count, which stands
last in the text but first in the order of the names. -/
theorem listOfText_one_or_many_malformed :
    let v := Value.object
      [("target", .null), ("method", .string "above"), ("count", .nat UInt32.size)]
    let refusal := ReadError.wrongValue (.number (.integer UInt32.size)) "u32"
    listOfText (v.toText .compact) = .error refusal ∧
      listOfText ("[" ++ v.toText .compact ++ "]") = .error refusal := by
  intro v refusal
  have hreadable : v.Readable := Value.readable_object_cons.mpr ⟨Value.readable_null,
    Value.readable_object_cons.mpr ⟨Value.readable_string _,
      Value.readable_object_cons.mpr ⟨Value.readable_nat (by decide), Value.readable_object_nil⟩⟩⟩
  have hread : Value.ofText (v.toText .compact) = .ok v.ordered :=
    Value.ofText_eq_ordered .compact hreadable (by decide)
  have hone : listOfText (v.toText .compact) = .error refusal := by
    rw [listOfText_of_ofText hread]
    rfl
  obtain ⟨_, _, hsame⟩ := listOfText_one_or_many
  have hbrackets := hsame _ _ (Value.holdsValue_toText .compact hreadable (by decide)) hread
    fun items h => Value.noConfusion h
  exact ⟨hone, hbrackets.1.trans hone⟩

end StepSpec

end LayoutTrail
