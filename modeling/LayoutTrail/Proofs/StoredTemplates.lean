import LayoutTrail.Proofs.Extraction
import LayoutTrail.Proofs.StoredResults

/-!
# Stored templates

A template is read back from its text with its fields in their order.  Where a name is written more
than once, reading does what adding the fields one after the other does: the name keeps its first
place and takes the steps that were written last.
-/

namespace LayoutTrail

open Json (Decoder Record Value Source Layout Tree)
open Json.Value

variable {source : Source}

theorem Method.decoder_name (m : Method) :
    Method.decoder source (Value.string m.name).toTree = .ok m :=
  nameDecoder_string m.ofName_name

namespace StepSpec

theorem readable_toJson (s : StepSpec) : s.toJson.Readable := by
  have hcount : (Value.nat s.count.toNat).Readable :=
    readable_nat (Nat.lt_trans s.count.toNat_lt (by decide))
  have htarget : (Value.object
      [("pattern", .string s.pattern), ("unit", .string s.unit.name)]).Readable :=
    readable_object_cons.mpr ⟨readable_string _, readable_object_cons.mpr
      ⟨readable_string _, readable_object_nil⟩⟩
  exact readable_object_cons.mpr ⟨hcount, readable_object_cons.mpr ⟨readable_string _,
    readable_object_cons.mpr ⟨htarget, readable_object_nil⟩⟩⟩

/-- What a step looks for is read from its pattern and unit. -/
theorem decode_target_members {t u : Tree} {pattern : String} {unit : TextUnit}
    (hpattern : Decoder.string source t = .ok pattern)
    (hunit : TextUnit.decoder source u = .ok unit) :
    targetRecord.decode source (.object [(.ok "pattern", t), (.ok "unit", u)] none) =
      .ok (pattern, unit) := by
  rw [Record.decode_complete]
  simp [targetRecord, Record.readMembers, Json.kept, Json.required, hpattern, hunit,
    bind, Except.bind]

/-- A step is read from its count, its method and what it looks for. -/
theorem decode_members {tc tm tt : Tree} {count : Nat} {method : Method} {pattern : String}
    {unit : TextUnit} (hcount : Decoder.natBelow UInt32.size "u32" source tc = .ok count)
    (hmethod : Method.decoder source tm = .ok method)
    (htarget : targetRecord.decode source tt = .ok (pattern, unit)) :
    decoder source (.object [(.ok "count", tc), (.ok "method", tm), (.ok "target", tt)] none) =
      .ok ⟨.ofNat count, method, pattern, unit⟩ := by
  rw [decoder, Record.decode_complete]
  simp [record, Record.readMembers, Json.kept, Json.required, hcount, hmethod, htarget,
    bind, Except.bind]

theorem decoder_toJson (s : StepSpec) : decoder source s.toJson.toTree = .ok s := by
  have hcount := Decoder.natBelow_nat s.count.toNat_lt "u32" source
  have htarget : targetRecord.decode source (Value.object
      [("pattern", .string s.pattern), ("unit", .string s.unit.name)]).toTree =
      .ok (s.pattern, s.unit) := decode_target_members rfl (TextUnit.decoder_name s.unit)
  have hstep := decode_members hcount (Method.decoder_name s.method) htarget
  rw [UInt32.ofNat_toNat] at hstep
  exact hstep

/-- Lists of steps of any length are read back. -/
theorem list_toJson (specs : List StepSpec) :
    Decoder.list decoder source (Value.array (specs.map toJson)).toTree = .ok specs :=
  Decoder.list_array specs fun s _ => s.decoder_toJson

end StepSpec

namespace Template

/-- What is written for fields in their order, also where names are repeated. -/
def fieldsJson (fields : List (String × List StepSpec)) : Value :=
  .object [("fields", .object (fields.map fun f => (f.1, .array (f.2.map StepSpec.toJson))))]

theorem fieldsJson_entries (t : Template) : fieldsJson t.fields.entries = t.toJson := rfl

theorem ofAdditions_eq (adds : List (String × List StepSpec)) :
    ofAdditions adds = ⟨.ofList adds⟩ := congrArg Template.mk (fields_ofAdditions adds)

theorem ofAdditions_entries (t : Template) : ofAdditions t.fields.entries = t := by
  rw [ofAdditions_eq, FieldMap.ofList_entries]

theorem readable_fieldsJson (fields : List (String × List StepSpec)) :
    (fieldsJson fields).Readable := by
  have hfields := readable_object_map (fun specs => .array (specs.map StepSpec.toJson)) fields
    fun f _ => readable_array_map f.2 fun s _ => s.readable_toJson
  exact readable_object_cons.mpr ⟨hfields, readable_object_nil⟩

/-- Fields are read one after the other and added in this order. -/
theorem decoder_fieldsJson (fields : List (String × List StepSpec)) :
    decoder source (fieldsJson fields).toTree = .ok (ofAdditions fields) := by
  have hmap : Decoder.map (Decoder.list StepSpec.decoder) source (Value.object
      (fields.map fun f => (f.1, .array (f.2.map StepSpec.toJson)))).toTree = .ok fields :=
    Decoder.map_object (fun specs => .array (specs.map StepSpec.toJson)) fields
      fun f _ => StepSpec.list_toJson f.2
  have hread : record.read "fields" source
      (Value.object (fields.map fun f => (f.1, .array (f.2.map StepSpec.toJson)))).toTree none =
      .ok (some fields) := by
    simp only [record, hmap, Except.map]
  have hfinish : record.finish (fun _ name => .missingField name) (some fields) =
      .ok (ofAdditions fields) := by
    rw [ofAdditions_eq]
    rfl
  exact Record.decode_singleton rfl rfl hread hfinish

theorem ofText_fieldsJson (fields : List (String × List StepSpec)) (layout : Layout) :
    ofText ((fieldsJson fields).toText layout) = .ok (ofAdditions fields) :=
  Json.decodeText_toText layout (readable_fieldsJson fields) (decoder_fieldsJson fields)

/-- A template is read back from its text as it was, fields and steps in their order; and any fields
written in a row, under repeated names or not, are read as the template that adding them one after
the other makes. -/
theorem read_back_and_read_additions (layout : Layout) :
    (∀ t : Template, ofText (t.toJson.toText layout) = .ok t) ∧
      ∀ fields : List (String × List StepSpec),
        ofText ((fieldsJson fields).toText layout) =
          .ok (fields.foldl (fun t f => t.addField f.1 f.2) empty) := by
  refine ⟨fun t => ?_, fun fields => ofText_fieldsJson fields layout⟩
  rw [← fieldsJson_entries, ofText_fieldsJson, ofAdditions_entries]

end Template

end LayoutTrail
