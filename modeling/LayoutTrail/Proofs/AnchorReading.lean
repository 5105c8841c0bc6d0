import LayoutTrail.Proofs.Json.Skipping
import LayoutTrail.Proofs.StoredAnchors

/-!
# Two readers of a stored target

The text of a target may be read as a target or as an anchor.  Whatever object is read as a found
target, written here or elsewhere, is read as the anchor of that target.
-/

namespace LayoutTrail

open Json (Decoder Record Source Tree Name Value)

variable {source : Source} {t : Tree}

theorem TextUnit.readsWhole_decoder : TextUnit.decoder.ReadsWhole :=
  Decoder.readsWhole_checked Decoder.readsWhole_string

theorem Vertex.readsWhole_record : Vertex.record.ReadsWhole := by
  intro name source t parts parts' h
  obtain ⟨x, hx, _⟩ := Json.exists_of_bind_eq_ok h
  exact Decoder.readsWhole_float hx

theorem Quad.exactly_of_decoder {q : Quad} (h : Quad.decoder source t = .ok q) :
    Decoder.exactly 4 Vertex.decoder source t = .ok q.corners := by
  obtain ⟨corners, hcorners, h⟩ := Json.exists_of_bind_eq_ok h
  split at h
  next =>
    obtain rfl := Except.ok.inj h
    exact hcorners
  next => cases h

theorem Quad.readsWhole_decoder : Quad.decoder.ReadsWhole := fun _ _ _ h =>
  Decoder.readsWhole_exactly (Record.readsWhole_decode Vertex.readsWhole_record) 4
    (exactly_of_decoder h)

theorem Segment.readsWhole_record : Segment.record.ReadsWhole := by
  intro name source t parts parts' h
  dsimp only [record] at h
  split at h
  next =>
    obtain ⟨text, htext, _⟩ := Json.exists_of_bind_eq_ok h
    exact Decoder.readsWhole_string htext
  next =>
    obtain ⟨quad, hquad, _⟩ := Json.exists_of_bind_eq_ok h
    exact Quad.readsWhole_decoder hquad

theorem Segments.readsWhole_record : Segments.record.ReadsWhole := by
  intro name source t parts parts' h
  obtain ⟨s, hs, _⟩ := Json.exists_of_bind_eq_ok h
  exact Record.readsWhole_decode Segment.readsWhole_record hs

namespace Target

/-- What the reader of anchors has read when the reader of targets has read some fields. -/
def Parts.anchorParts (p : Parts) : Anchor.Parts :=
  ⟨p.value, p.cursor.join, p.quad.join.map Quad.corners⟩

/-- Neither the position nor the box is `null`. -/
def Parts.Placed (p : Parts) : Prop := p.cursor ≠ some none ∧ p.quad ≠ some none

/-- A field of a target is read alike by the reader of anchors, or skipped. -/
theorem read_anchorParts {name : String} {parts mid : Parts}
    (hname : record.fields.contains name = true) (hnew : record.has name parts = false)
    (h : record.read name source t parts = .ok mid) (hmid : mid.Placed) :
    parts.Placed ∧
      (Anchor.record.fields.contains name = true ∧
          Anchor.record.has name parts.anchorParts = false ∧
          Anchor.record.read name source t parts.anchorParts = .ok mid.anchorParts ∨
        Anchor.record.fields.contains name = false ∧ t.skippedFault = none ∧
          mid.anchorParts = parts.anchorParts) := by
  have hcases : name = "value" ∨ name = "unitType" ∨ name = "normalizedVertices" ∨
      name = "indices" ∨ name = "segments" := by simpa [record] using hname
  rcases hcases with rfl | rfl | rfl | rfl | rfl
  · obtain ⟨value, hvalue, h⟩ := Json.exists_of_bind_eq_ok h
    obtain rfl := Except.ok.inj h
    exact ⟨hmid, .inl ⟨rfl, hnew, Anchor.read_value hvalue _⟩⟩
  · obtain ⟨unit, hunit, h⟩ := Json.exists_of_bind_eq_ok h
    obtain rfl := Except.ok.inj h
    exact ⟨hmid, .inr ⟨rfl, Decoder.readsWhole_optional TextUnit.readsWhole_decoder hunit, rfl⟩⟩
  · obtain ⟨quad, hquad, h⟩ := Json.exists_of_bind_eq_ok h
    obtain rfl := Except.ok.inj h
    have hnone : parts.quad = none := by simpa [record] using hnew
    obtain ⟨hcursor, hplaced⟩ := hmid
    -- `null` for a box is read in targets only; it leaves the parts without a place for good
    rcases Decoder.eq_null_or_of_optional hquad with ⟨_, rfl⟩ | ⟨q, rfl, hq⟩
    · exact absurd rfl hplaced
    · have hlist := Decoder.list_of_exactly (Quad.exactly_of_decoder hq)
      refine ⟨⟨hcursor, by simp [hnone]⟩, .inl ⟨rfl, ?_, Anchor.read_vertices hlist _⟩⟩
      simp [Anchor.record, Parts.anchorParts, hnone]
  · obtain ⟨cursor, hcursor, h⟩ := Json.exists_of_bind_eq_ok h
    obtain rfl := Except.ok.inj h
    have hnone : parts.cursor = none := by simpa [record] using hnew
    obtain ⟨hplaced, hquad⟩ := hmid
    rcases Decoder.eq_null_or_of_optional hcursor with ⟨_, rfl⟩ | ⟨c, rfl, hc⟩
    · exact absurd rfl hplaced
    · refine ⟨⟨by simp [hnone], hquad⟩, .inl ⟨rfl, ?_, Anchor.read_indices hc _⟩⟩
      simp [Anchor.record, Parts.anchorParts, hnone]
  · obtain ⟨segments, hsegments, h⟩ := Json.exists_of_bind_eq_ok h
    obtain rfl := Except.ok.inj h
    exact ⟨hmid, .inr ⟨rfl, Decoder.readsWhole_optional
      (Record.readsWhole_decode Segments.readsWhole_record) hsegments, rfl⟩⟩

theorem views_anchorParts :
    Record.Views record Anchor.record Parts.anchorParts Parts.Placed where
  skip name hname := by
    simp only [record, Anchor.record, List.contains_cons, Bool.or_eq_false_iff] at hname ⊢
    obtain ⟨hvalue, _, hvertices, hindices, _, _⟩ := hname
    exact ⟨hvalue, hindices, hvertices, rfl⟩
  read _ _ _ _ _ := read_anchorParts

theorem exists_of_ofFields {f : Fields} {target : Target} (h : ofFields f = .ok target)
    (hfound : target.isFound = true) : ∃ quad cursor, f.quad = some quad ∧ f.cursor = some cursor ∧
      target.anchor? = some ⟨f.value, cursor, quad.span⟩ := by
  unfold ofFields at h
  split at h
  next =>
    obtain rfl := Except.ok.inj h
    cases hfound
  next quad cursor _ hquad hcursor =>
    obtain rfl := Except.ok.inj h
    exact ⟨quad, cursor, hquad, hcursor, rfl⟩
  next quad cursor _ hquad hcursor =>
    obtain rfl := Except.ok.inj h
    exact ⟨quad, cursor, hquad, hcursor, rfl⟩
  next => cases h

/-- What the reader of targets had read of a found target before it put the fields together. -/
theorem exists_parts_of_isFound {members : List (Name × Tree)} {cut : Option Json.Break}
    {target : Target} (h : decoder source (.object members cut) = .ok target)
    (hfound : target.isFound = true) : ∃ parts value quad cursor,
      record.readMembers source record.start members = .ok parts ∧ cut = none ∧
        parts.value = some value ∧ parts.quad = some (some quad) ∧
        parts.cursor = some (some cursor) ∧ target.anchor? = some ⟨value, cursor, quad.span⟩ := by
  obtain ⟨fields, hfields, htarget⟩ := Decoder.exists_of_checked h
  obtain ⟨parts, hparts, rfl, hfinish⟩ := Record.exists_of_decode_object hfields
  obtain ⟨value, hvalue, hfinish⟩ := Json.exists_of_bind_eq_ok hfinish
  obtain rfl := Except.ok.inj hfinish
  obtain ⟨quad, cursor, hquad, hcursor, hanchor⟩ :=
    exists_of_ofFields (Json.eq_ok_of_mapError_eq_ok htarget) hfound
  exact ⟨parts, value, quad, cursor, hparts, rfl, Json.eq_some_of_required hvalue,
    Option.join_eq_some_iff.mp hquad, Option.join_eq_some_iff.mp hcursor, hanchor⟩

end Target

namespace Anchor

theorem decoder_of_target {members : List (Name × Tree)} {cut : Option Json.Break} {target : Target}
    (h : Target.decoder source (.object members cut) = .ok target)
    (hfound : target.isFound = true) : ∃ a, target.anchor? = some a ∧
      decoder source (.object members cut) = .ok a := by
  obtain ⟨parts, value, quad, cursor, hparts, rfl, hvalue, hquad, hcursor, hanchor⟩ :=
    Target.exists_parts_of_isFound h hfound
  have hplaced : parts.Placed := ⟨by simp [hcursor], by simp [hquad]⟩
  have hread : record.readMembers source record.start members = .ok parts.anchorParts :=
    (Target.views_anchorParts.readMembers hparts hplaced).2
  have hfields : record.decode source (.object members none) =
      .ok ⟨value, cursor, quad.corners⟩ := by
    rw [Record.decode_complete, hread, Target.Parts.anchorParts, hvalue, hcursor, hquad]
    rfl
  exact ⟨_, hanchor, Decoder.checked_of_ok hfields rfl⟩

/-- A member that may be part of a target but stands for nothing in an anchor. -/
def isAside (m : Name × Tree) : Bool :=
  match m.1 with
  | .ok name => name = "unitType" || name = "segments"
  | .error _ => false

theorem exists_name_of_isAside {m : Name × Tree} (h : isAside m = true) :
    ∃ name, m.1 = .ok name ∧ record.fields.contains name = false := by
  unfold isAside at h
  split at h
  next name hname =>
    refine ⟨name, hname, ?_⟩
    rcases (Bool.or_eq_true _ _).mp h with h | h
    all_goals
      rw [of_decide_eq_true h]
      rfl
  next => cases h

/-- Members that stand aside may be dropped. -/
theorem decoder_filter {members : List (Name × Tree)} (cut : Option Json.Break)
    (h : ∀ m ∈ members, isAside m = true → m.2.skippedFault = none) :
    decoder source (.object (members.filter fun m => !isAside m) cut) =
      decoder source (.object members cut) := by
  have hmembers : record.readMembers source record.start (members.filter fun m => !isAside m) =
      record.readMembers source record.start members := by
    refine Record.readMembers_filter fun m hm haside => ?_
    have haside : isAside m = true := by simpa using haside
    exact ⟨h m hm haside, exists_name_of_isAside haside⟩
  rw [decoder, Decoder.checked, Decoder.checked, Record.decode, Record.decode, hmembers]

/-- If a text of an object, in whatever order and with whatever other members, is read as a found
target, then it is read as an anchor too, and as that of the target.  What stands under `unitType` and
`segments`, if anything does, makes no difference to how a text is read as an anchor. -/
theorem ofText_agrees_with_target :
    (∀ text members cut target, (Tree.ofText text).tree = .object members cut →
      Target.ofText text = .ok target → target.isFound = true →
        ∃ a, target.anchor? = some a ∧ ofText text = .ok a) ∧
      ∀ text text' members members' cut trailing,
        Tree.ofText text = ⟨.object members cut, trailing⟩ →
        Tree.ofText text' = ⟨.object members' cut, trailing⟩ →
        (∀ m ∈ members ++ members', isAside m = true → m.2.skippedFault = none) →
        (members.filter fun m => !isAside m) = members'.filter (fun m => !isAside m) →
          ofText text = ofText text' := by
  refine ⟨fun text members cut target htree htarget hfound => ?_, ?_⟩
  · obtain ⟨hdecode, htrailing⟩ := Json.decodeReading_eq_ok_iff.mp htarget
    rw [htree] at hdecode
    obtain ⟨a, ha, hdecode⟩ := decoder_of_target hdecode hfound
    rw [← htree] at hdecode
    exact ⟨a, ha, Json.decodeReading_eq_ok_iff.mpr ⟨hdecode, htrailing⟩⟩
  · intro text text' members members' cut trailing htext htext' hskip hsame
    obtain ⟨hmembers, hmembers'⟩ := List.forall_mem_append.mp hskip
    simp only [ofText, Json.decodeText, Json.decodeReading, htext, htext']
    rw [← decoder_filter cut hmembers, ← decoder_filter cut hmembers', hsame]

/-- The members of a phrase that a reader of anchors heeds, as another program may write them: the
position and some corners as arrays, and no coordinates that are zero. -/
def sparseMembers : List (String × Value) :=
  [("indices", .array [.nat 0, .nat 0, .nat 0, .nat 1]),
    ("normalizedVertices", .array [.object [], .array [.number (.float 0.5)],
      .object [("y", .number (.float 0.5)), ("x", .number (.float 0.5))], .array []]),
    ("value", .string "No. 7")]

theorem readable_sparseMembers : (Value.object sparseMembers).Readable := by
  intro n hn
  have hn : n = .integer (0 : Nat) ∨ n = .integer (1 : Nat) ∨ n = .float 0.5 := by
    simpa [sparseMembers, Value.numbers, Value.itemNumbers, Value.memberNumbers, Value.nat] using hn
  have hhalf : ReadBack [0.5] := readBack_of_zero_or_half (by simp)
  rcases hn with rfl | rfl | rfl
  · exact Json.Number.readsBack_natCast (by decide)
  · exact Json.Number.readsBack_natCast (by decide)
  · exact hhalf 0.5 List.mem_cons_self (by decide +kernel)

theorem agrees_with_sparse_target :
    let bare := ("note", .array [.string "\n"]) :: sparseMembers
    let text := (Value.object
      (("segments", .null) :: ("unitType", .string "phrase") :: bare)).toText .pretty
    ∃ target a, Target.ofText text = .ok target ∧ target.isFound = true ∧
      target.anchor? = some a ∧ ofText text = .ok a ∧
      ofText ((Value.object bare).toText .compact) = .ok a := by
  intro bare text
  have hbare : (Value.object bare).Readable :=
    Value.readable_object_cons.mpr ⟨fun _ h => absurd h List.not_mem_nil, readable_sparseMembers⟩
  have hreadable : (Value.object
      (("segments", .null) :: ("unitType", .string "phrase") :: bare)).Readable :=
    Value.readable_object_cons.mpr ⟨Value.readable_null,
      Value.readable_object_cons.mpr ⟨Value.readable_string _, hbare⟩⟩
  have htext := Value.ofText_toText .pretty hreadable
  have htarget : Target.ofText text = .ok (.phrase ⟨"No. 7",
      ⟨⟨0, 0⟩, ⟨0.5, 0⟩, ⟨0.5, 0.5⟩, ⟨0, 0⟩⟩, ⟨0, 0, 0, 1⟩, none⟩) :=
    Json.decodeReading_eq_ok_iff.mpr ⟨by rw [htext]; rfl, by rw [htext]⟩
  obtain ⟨hagree, haside⟩ := ofText_agrees_with_target
  obtain ⟨a, ha, hread⟩ := hagree text _ _ _ (congrArg Tree.Reading.tree htext) htarget rfl
  have hskip (members : List (String × Value)) : ∀ m ∈ Value.memberTrees members,
      m.2.skippedFault = none :=
    Tree.skippedMembers_eq_none_iff.mp (Value.skippedMembers_memberTrees members)
  have hsame := haside text _ _ _ _ _ htext (Value.ofText_toText .compact hbare)
    (fun m hm _ => (List.mem_append.mp hm).elim (hskip _ m) (hskip _ m)) rfl
  exact ⟨_, a, htarget, rfl, ha, hread, hsame.symm.trans hread⟩

end Anchor

end LayoutTrail
