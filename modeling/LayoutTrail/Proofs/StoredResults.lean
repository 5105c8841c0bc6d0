import LayoutTrail.Proofs.Fields
import LayoutTrail.Proofs.StoredAnchors
import LayoutTrail.Template

/-!
# Stored results

What was found is read back from its text, a single target as well as the targets of all fields of a
template in their order.  A text therefore stands for one result only.
-/

namespace LayoutTrail

open Json (Decoder Record Value Source Layout Number Tree Name)
open Json.Value

variable {source : Source}

/-! ## The parts of a target -/

theorem nameDecoder_string {α : Type} {ofName : String → Except Error α} {name : String} {a : α}
    (h : ofName name = .ok a) : nameDecoder ofName source (Value.string name).toTree = .ok a := by
  have hstring : Decoder.string source (Value.string name).toTree = .ok name := rfl
  have hname : (ofName name).mapError Error.message = .ok a := by
    rw [h]
    rfl
  exact Decoder.checked_of_ok hstring hname

theorem TextUnit.decoder_name (u : TextUnit) :
    TextUnit.decoder source (Value.string u.name).toTree = .ok u :=
  nameDecoder_string u.ofName_name

/-- A part of a phrase is read from its box and text. -/
theorem Segment.decode_members {t u : Tree} {q : Quad} {text : String}
    (hquad : Quad.decoder source t = .ok q) (htext : Decoder.string source u = .ok text) :
    record.decode source (.object [(.ok "normalizedVertices", t), (.ok "text", u)] none) =
      .ok ⟨q, text⟩ := by
  rw [Record.decode_complete]
  simp [record, Record.readMembers, Json.kept, Json.required, hquad, htext,
    bind, Except.bind]

theorem Segment.decode_toJson {s : Segment} (h : ∀ x ∈ s.quad.coordinates, x.isFinite) :
    record.decode source s.toJson.toTree = .ok s :=
  decode_members (Quad.decoder_toJson h) rfl

/-- The two parts of a phrase are read one after the other. -/
theorem Segments.decode_members {t u : Tree} {first second : Segment}
    (hfirst : Segment.record.decode source t = .ok first)
    (hsecond : Segment.record.decode source u = .ok second) :
    record.decode source (.object [(.ok "first", t), (.ok "second", u)] none) =
      .ok ⟨first, second⟩ := by
  rw [Record.decode_complete]
  simp [record, Record.readMembers, Json.kept, Json.required, hfirst, hsecond,
    bind, Except.bind]

theorem Segments.optional_toJson {s : Option Segments}
    (h : ∀ x ∈ s.toList.flatMap fun s => s.first.quad.coordinates ++ s.second.quad.coordinates,
      x.isFinite) :
    Decoder.optional record.decode source ((s.map toJson).getD .null).toTree = .ok s := by
  cases s with
  | none => rfl
  | some s =>
    rw [Option.toList_some, List.flatMap_singleton] at h
    obtain ⟨hfirst, hsecond⟩ := List.forall_mem_append.mp h
    exact Decoder.optional_of_ok (by simp [toJson, toTree])
      (decode_members (Segment.decode_toJson hfirst) (Segment.decode_toJson hsecond))

namespace Target

/-- All found targets are written with these four members first. -/
theorem decode_members {tv tu tq tc : Tree} {value : String} {quad : Option Quad}
    {unit : Option TextUnit} {cursor : Option Cursor} (rest : List (Name × Tree))
    (hvalue : Decoder.string source tv = .ok value)
    (hunit : TextUnit.decoder.optional source tu = .ok unit)
    (hquad : Quad.decoder.optional source tq = .ok quad)
    (hcursor : Cursor.decoder.optional source tc = .ok cursor) :
    record.decode source (.object ((.ok "value", tv) :: (.ok "unitType", tu) ::
        (.ok "normalizedVertices", tq) :: (.ok "indices", tc) :: rest) none) =
      (record.readMembers source ⟨some value, some unit, some quad, some cursor, none⟩ rest).bind
        (record.finish fun _ name => .missingField name) := by
  rw [Record.decode_complete]
  simp [record, Record.readMembers, Json.kept, hvalue, hunit, hquad, hcursor, bind, Except.bind]

theorem read_segments {t : Tree} {segments : Option Segments}
    (h : Decoder.optional Segments.record.decode source t = .ok segments) (parts : Parts) :
    record.read "segments" source t parts = .ok { parts with segments := some segments } := by
  simp only [record, h, bind, Except.bind]
  rfl

/-- A target whose numbers can be written and are read back as they are printed. -/
structure Storable (t : Target) : Prop where
  finite : ∀ x ∈ t.coordinates, x.isFinite
  readBack : ReadBack t.coordinates
  fits : ∀ c, t.cursor? = some c → c.Fits

theorem decoder_toJson {t : Target} (hfinite : ∀ x ∈ t.coordinates, x.isFinite)
    (hfits : ∀ c, t.cursor? = some c → c.Fits) : decoder source t.toJson.toTree = .ok t := by
  have hunit (u : TextUnit) : TextUnit.decoder.optional source (Value.string u.name).toTree =
      .ok (some u) := Decoder.optional_of_ok (by simp [toTree]) (TextUnit.decoder_name u)
  have hquad {q : Quad} (hq : ∀ x ∈ q.coordinates, x.isFinite) :
      Quad.decoder.optional source q.toJson.toTree = .ok (some q) :=
    Decoder.optional_of_ok (by simp [Quad.toJson, toTree]) (Quad.decoder_toJson hq)
  have hcursor {c : Cursor} (hc : c.Fits) :
      Cursor.decoder.optional source c.toJson.toTree = .ok (some c) :=
    Decoder.optional_of_ok (by simp [Cursor.toJson, toTree]) (Cursor.decoder_toJson hc)
  have hvalue (value : String) : Decoder.string source (Value.string value).toTree = .ok value := rfl
  cases t with
  | notFound => rfl
  | word m =>
    have hfields := decode_members [] (hvalue m.value) (hunit .word) (hquad hfinite)
      (hcursor (hfits m.cursor rfl))
    exact Decoder.checked_of_ok (hfields.trans rfl) rfl
  | phrase m =>
    obtain ⟨hq, hs⟩ := List.forall_mem_append.mp hfinite
    have hfields := decode_members
      [(.ok "segments", ((m.segments.map Segments.toJson).getD .null).toTree)]
      (hvalue m.value) (hunit .phrase) (hquad hq) (hcursor (hfits m.cursor rfl))
    rw [Record.readMembers_cons_of_read rfl rfl (read_segments (Segments.optional_toJson hs) _)]
      at hfields
    exact Decoder.checked_of_ok (hfields.trans rfl) rfl

theorem ofText_eq_self {t : Target} (h : t.Storable) (layout : Layout) :
    ofText (t.toJson.toText layout) = .ok t :=
  Json.decodeText_toText layout (readable_toJson h.readBack h.fits)
    (decoder_toJson h.finite h.fits)

/-- The members of a target: all but what was not found have more than a text, and a phrase has its
parts or `null`. -/
theorem exists_members_toJson (t : Target) :
    ∃ members, t.toJson = .object members ∧
      (members.map (·.1) = ["value"] ↔ t = .notFound) ∧
      ("segments" ∈ members.map (·.1) ↔ t.unit? = some .phrase) ∧
      (("segments", .null) ∈ members ↔ t.unit? = some .phrase ∧ t.segments? = none) := by
  cases t with
  | notFound => exact ⟨_, rfl, by simp, by simp [unit?], by simp [unit?]⟩
  | word m => exact ⟨_, rfl, by simp, by simp [unit?], by simp [unit?]⟩
  | phrase m =>
    refine ⟨_, rfl, by simp, by simp [unit?], ?_⟩
    cases hs : m.segments <;> simp [unit?, segments?, hs, Segments.toJson]

end Target

/-- An extraction whose numbers can be written and are read back as they are printed. -/
def Extraction.Storable (e : Extraction) : Prop := ∀ f ∈ e.fields.entries, f.2.Storable

theorem Extraction.ofText_eq_self {e : Extraction} (h : e.Storable) (layout : Layout) :
    ofText (e.toJson.toText layout) = .ok e := by
  have hreadable : e.toJson.Readable := readable_object_map Target.toJson e.fields.entries fun f hf =>
    Target.readable_toJson (h f hf).readBack (h f hf).fits
  have hentries : Decoder.map Target.decoder .text e.toJson.toTree = .ok e.fields.entries :=
    Decoder.map_object Target.toJson e.fields.entries fun f hf =>
      Target.decoder_toJson (h f hf).finite (h f hf).fits
  refine Json.decodeText_toText layout hreadable ?_
  rw [decoder, hentries]
  change Except.ok (Extraction.mk (FieldMap.ofList e.fields.entries)) = .ok e
  rw [FieldMap.ofList_entries]

/-- Decoding undoes encoding, for single targets and for all fields of an extraction in their order; so
different results have different texts, in whatever layout.  Only what was not found is written with a
text alone, only phrases have parts, and only whole phrases have `null` for them. -/
theorem results_read_back :
    (∀ t : Target, t.Storable → ∀ layout, Target.ofText (t.toJson.toText layout) = .ok t) ∧
      (∀ e : Extraction, e.Storable →
        ∀ layout, Extraction.ofText (e.toJson.toText layout) = .ok e) ∧
      (∀ t t' : Target, t.Storable → t'.Storable →
        ∀ layout layout', t.toJson.toText layout = t'.toJson.toText layout' → t = t') ∧
      (∀ e e' : Extraction, e.Storable → e'.Storable →
        ∀ layout layout', e.toJson.toText layout = e'.toJson.toText layout' → e = e') ∧
      ∀ t : Target, t.Storable → ∀ layout, ∃ members,
        Tree.ofText (t.toJson.toText layout) = ⟨(Value.object members).toTree, false⟩ ∧
          (members.map (·.1) = ["value"] ↔ t = .notFound) ∧
          ("segments" ∈ members.map (·.1) ↔ t.unit? = some .phrase) ∧
          (("segments", .null) ∈ members ↔ t.unit? = some .phrase ∧ t.segments? = none) := by
  refine ⟨fun t h => Target.ofText_eq_self h, fun e h => Extraction.ofText_eq_self h, ?_, ?_, ?_⟩
  · intro t t' h h' layout layout' htext
    have hread := Target.ofText_eq_self h layout
    rw [htext, Target.ofText_eq_self h' layout'] at hread
    exact (Except.ok.inj hread).symm
  · intro e e' h h' layout layout' htext
    have hread := Extraction.ofText_eq_self h layout
    rw [htext, Extraction.ofText_eq_self h' layout'] at hread
    exact (Except.ok.inj hread).symm
  · intro t h layout
    obtain ⟨members, hmembers, hkeys⟩ := t.exists_members_toJson
    refine ⟨members, ?_, hkeys⟩
    rw [ofText_toText layout (Target.readable_toJson h.readBack h.fits), hmembers]

/-- A field of every kind, under names that need escapes. -/
def mixedFields : Extraction :=
  let box : Quad := .ofEdges 0 0 0.5 0.5
  ⟨⟨[("", .notFound), ("a \"b\"\n", .word ⟨"7\t", box, ⟨0, 0, 0, 1⟩⟩),
    ("whole", .phrase ⟨"", box, .start, none⟩),
    ("rest", .phrase ⟨"\\é", box, ⟨1, 2, 3, 4⟩, some ⟨⟨box, "value"⟩, ⟨box, "null"⟩⟩⟩)], by decide⟩⟩

theorem results_read_back_mixedFields :
    mixedFields.Storable ∧
      (∀ layout, Extraction.ofText (mixedFields.toJson.toText layout) = .ok mixedFields) ∧
      ∀ f ∈ mixedFields.fields.entries, f.2.Storable ∧
        ∀ layout, Target.ofText (f.2.toJson.toText layout) = .ok f.2 := by
  have hcoordinates : ∀ f ∈ mixedFields.fields.entries, ∀ x ∈ f.2.coordinates, x = 0 ∨ x = 0.5 := by
    simp [mixedFields, Target.coordinates, Quad.coordinates, Quad.corners, Quad.ofEdges]
  have hfits : ∀ f ∈ mixedFields.fields.entries, ∀ c, f.2.cursor? = some c → c.Fits := by
    have hlow {n : Nat} (hn : n ≤ 4) : n < UInt64.size := Nat.lt_of_le_of_lt hn (by decide)
    simp only [mixedFields, List.forall_mem_cons, Target.cursor?, Option.some.injEq]
    refine ⟨?_, ?_, ?_, ?_, fun f hf => absurd hf List.not_mem_nil⟩
    · intro c hc
      cases hc
    all_goals
      rintro c rfl
      exact ⟨hlow (by decide), hlow (by decide), hlow (by decide), hlow (by decide)⟩
  have hstorable : mixedFields.Storable := fun f hf =>
    { finite := fun x hx => by rcases hcoordinates f hf x hx with rfl | rfl <;> decide +kernel
      readBack := readBack_of_zero_or_half (hcoordinates f hf)
      fits := hfits f hf }
  obtain ⟨htargets, hextractions, _⟩ := results_read_back
  exact ⟨hstorable, hextractions mixedFields hstorable,
    fun f hf => ⟨hstorable f hf, htargets f.2 (hstorable f hf)⟩⟩

end LayoutTrail
