import LayoutTrail.Proofs.Anchoring
import LayoutTrail.Proofs.Json.Decoding
import LayoutTrail.Search.Encoding

/-!
# Targets stored as anchors

The text of a found target is read as the anchor that the target is.  This needs numbers that are read
back as they are printed: positions are if they fit a machine word, and for coordinates it is assumed.
-/

namespace LayoutTrail

open Json (Decoder Record Value Source Layout Number)

/-- The coordinates of the corners of a box. -/
def Quad.coordinates (q : Quad) : List Float := q.corners.flatMap fun v => [v.x, v.y]

/-- The coordinates that a target is written with. -/
def Target.coordinates : Target → List Float
  | notFound => []
  | word m => m.quad.coordinates
  | phrase m => m.quad.coordinates ++ m.segments.toList.flatMap fun s =>
      s.first.quad.coordinates ++ s.second.quad.coordinates

/-- A cursor that can be written with machine words. -/
structure Cursor.Fits (c : Cursor) : Prop where
  page : c.page < UInt64.size
  line : c.line < UInt64.size
  phrase : c.phrase < UInt64.size
  word : c.word < UInt64.size

/-- A document whose lists can be indexed by machine words, as all lists in memory can. -/
def Document.Addressable (d : Document) : Prop :=
  d.pages.length ≤ UInt64.size ∧ ∀ page ∈ d.pages, page.lines.length ≤ UInt64.size ∧
    ∀ line ∈ page.lines, line.phrases.length ≤ UInt64.size ∧
      ∀ phrase ∈ line.phrases, phrase.words.length ≤ UInt64.size

theorem Document.fits_of_wordAt? {d : Document} (hd : d.Addressable) {c : Cursor}
    (h : (d.wordAt? c).isSome) : c.Fits := by
  obtain ⟨hpages, hd⟩ := hd
  obtain ⟨p, hp, hword⟩ := isSome_wordAt?_iff.mp h
  obtain ⟨page, hpage, line, hline, hphrase⟩ := phraseAt?_eq_some_iff.mp hp
  obtain ⟨hlines, hd⟩ := hd page (List.mem_of_getElem? hpage)
  obtain ⟨hphrases, hd⟩ := hd line (List.mem_of_getElem? hline)
  have hwords := hd p (List.mem_of_getElem? hphrase)
  obtain ⟨hpage, _⟩ := List.getElem?_eq_some_iff.mp hpage
  obtain ⟨hline, _⟩ := List.getElem?_eq_some_iff.mp hline
  obtain ⟨hphrase, _⟩ := List.getElem?_eq_some_iff.mp hphrase
  exact ⟨by omega, by omega, by omega, by omega⟩

/-! ## What is written can be read -/

/-- Floats that are read back as they are printed, if they are printed. -/
def ReadBack (xs : List Float) : Prop := ∀ x ∈ xs, x.isFinite → (Number.float x).ReadsBack

theorem readBack_append {xs ys : List Float} :
    ReadBack (xs ++ ys) ↔ ReadBack xs ∧ ReadBack ys := List.forall_mem_append

/-- Zero and a half are read back, and so are coordinates that are one or the other. -/
theorem readBack_of_zero_or_half {xs : List Float} (h : ∀ x ∈ xs, x = 0 ∨ x = 0.5) :
    ReadBack xs := by
  intro x hx _
  rcases h x hx with rfl | rfl
  all_goals
    rw [Number.ReadsBack]
    with_unfolding_all rfl

open Json.Value

theorem Vertex.readable_toJson {v : Vertex} (h : ReadBack [v.x, v.y]) : v.toJson.Readable := by
  obtain ⟨hx, h⟩ := List.forall_mem_cons.mp h
  obtain ⟨hy, _⟩ := List.forall_mem_cons.mp h
  exact readable_object_cons.mpr ⟨readable_float hx,
    readable_object_cons.mpr ⟨readable_float hy, readable_object_nil⟩⟩

theorem Quad.readable_toJson {q : Quad} (h : ReadBack q.coordinates) : q.toJson.Readable :=
  readable_array_map q.corners fun v hv =>
    Vertex.readable_toJson fun x hx => h x (List.mem_flatMap.mpr ⟨v, hv, hx⟩)

theorem Cursor.readable_toJson {c : Cursor} (h : c.Fits) : c.toJson.Readable :=
  readable_object_cons.mpr ⟨readable_nat h.page,
    readable_object_cons.mpr ⟨readable_nat h.line,
      readable_object_cons.mpr ⟨readable_nat h.phrase,
        readable_object_cons.mpr ⟨readable_nat h.word, readable_object_nil⟩⟩⟩⟩

theorem Segment.readable_toJson {s : Segment} (h : ReadBack s.quad.coordinates) :
    s.toJson.Readable :=
  readable_object_cons.mpr ⟨Quad.readable_toJson h,
    readable_object_cons.mpr ⟨readable_string s.text, readable_object_nil⟩⟩

theorem Segments.readable_toJson {s : Segments} (hfirst : ReadBack s.first.quad.coordinates)
    (hsecond : ReadBack s.second.quad.coordinates) : s.toJson.Readable :=
  readable_object_cons.mpr ⟨Segment.readable_toJson hfirst,
    readable_object_cons.mpr ⟨Segment.readable_toJson hsecond, readable_object_nil⟩⟩

theorem Target.readable_toJson {t : Target} (h : ReadBack t.coordinates)
    (hc : ∀ c, t.cursor? = some c → c.Fits) : t.toJson.Readable := by
  cases t with
  | notFound => exact readable_object_cons.mpr ⟨readable_string "", readable_object_nil⟩
  | word m =>
    have hquad := Quad.readable_toJson h
    have hcursor := Cursor.readable_toJson (hc m.cursor rfl)
    exact readable_object_cons.mpr ⟨readable_string _, readable_object_cons.mpr
      ⟨readable_string _, readable_object_cons.mpr ⟨hquad, readable_object_cons.mpr
        ⟨hcursor, readable_object_nil⟩⟩⟩⟩
  | phrase m =>
    obtain ⟨hq, hs⟩ := readBack_append.mp h
    have hquad := Quad.readable_toJson hq
    have hcursor := Cursor.readable_toJson (hc m.cursor rfl)
    have hsegments : ((m.segments.map Segments.toJson).getD .null).Readable := by
      cases hm : m.segments with
      | none => exact readable_null
      | some s =>
        rw [hm, Option.toList_some, List.flatMap_singleton] at hs
        obtain ⟨hfirst, hsecond⟩ := readBack_append.mp hs
        exact Segments.readable_toJson hfirst hsecond
    exact readable_object_cons.mpr ⟨readable_string _, readable_object_cons.mpr
      ⟨readable_string _, readable_object_cons.mpr ⟨hquad, readable_object_cons.mpr
        ⟨hcursor, readable_object_cons.mpr ⟨hsegments, readable_object_nil⟩⟩⟩⟩⟩

/-! ## What is read is the anchor -/

variable {source : Source}

theorem Vertex.decoder_toJson {v : Vertex} (hx : v.x.isFinite) (hy : v.y.isFinite) :
    Vertex.decoder source v.toJson.toTree = .ok v := by
  have hreadX : record.read "x" source (Value.float v.x).toTree record.start =
      .ok { x := some v.x } := by
    simp only [record, Decoder.float_float hx, bind, Except.bind]
    rfl
  have hreadY : record.read "y" source (Value.float v.y).toTree { x := some v.x } =
      .ok { x := some v.x, y := some v.y } := by
    simp only [record, Decoder.float_float hy, bind, Except.bind]
    rfl
  have hmembers : record.readMembers source record.start
      (Value.memberTrees [("x", .float v.x), ("y", .float v.y)]) =
      .ok { x := some v.x, y := some v.y } := by
    rw [Record.readMembers_field rfl rfl hreadX, Record.readMembers_field rfl rfl hreadY]
    rfl
  exact Record.decode_object hmembers rfl

theorem Quad.list_toJson {q : Quad} (h : ∀ x ∈ q.coordinates, x.isFinite) :
    Decoder.list Vertex.decoder source q.toJson.toTree = .ok q.corners := by
  refine Decoder.list_array q.corners fun v hv => ?_
  have hv : ∀ x ∈ [v.x, v.y], x.isFinite := fun x hx =>
    h x (List.mem_flatMap.mpr ⟨v, hv, hx⟩)
  exact Vertex.decoder_toJson (hv v.x (by simp)) (hv v.y (by simp))

theorem Quad.decoder_toJson {q : Quad} (h : ∀ x ∈ q.coordinates, x.isFinite) :
    Quad.decoder source q.toJson.toTree = .ok q := by
  have hcorners : Decoder.exactly 4 Vertex.decoder source q.toJson.toTree = .ok q.corners := by
    refine Decoder.exactly_array q.corners rfl fun v hv => ?_
    have hv := List.forall_mem_flatMap.mp h v hv
    exact Vertex.decoder_toJson (hv v.x (by simp)) (hv v.y (by simp))
  rw [decoder, hcorners]
  rfl

-- The tree stays open in the lemmas on fields: with a number or a box in its place, checking the
-- unfolded record would mean running the reader of that field.
theorem Cursor.read_eq {t : Json.Tree} {n : Nat} (h : indexDecoder source t = .ok n) (name : String)
    (parts : Parts) :
    record.read name source t parts =
      .ok (if name = "pageEnd" then { parts with page := some n }
        else if name = "lineEnd" then { parts with line := some n }
        else if name = "phraseEnd" then { parts with phrase := some n }
        else { parts with word := some n }) := by
  simp only [record, h, bind, Except.bind]

theorem Cursor.decoder_toJson {c : Cursor} (h : c.Fits) :
    Cursor.decoder source c.toJson.toTree = .ok c := by
  have hindex : ∀ {n : Nat}, n < UInt64.size → indexDecoder source (Value.nat n).toTree = .ok n :=
    fun hn => Decoder.natBelow_nat hn _ _
  have hpage : record.read "pageEnd" source (Value.nat c.page).toTree {} =
      .ok { page := some c.page } := read_eq (hindex h.page) _ _
  have hline : record.read "lineEnd" source (Value.nat c.line).toTree { page := some c.page } =
      .ok { page := some c.page, line := some c.line } := read_eq (hindex h.line) _ _
  have hphrase : record.read "phraseEnd" source (Value.nat c.phrase).toTree
      { page := some c.page, line := some c.line } =
      .ok { page := some c.page, line := some c.line, phrase := some c.phrase } :=
    read_eq (hindex h.phrase) _ _
  have hword : record.read "wordEnd" source (Value.nat c.word).toTree
      { page := some c.page, line := some c.line, phrase := some c.phrase } =
      .ok ⟨some c.page, some c.line, some c.phrase, some c.word⟩ := read_eq (hindex h.word) _ _
  have hmembers : record.readMembers source {} (Value.memberTrees
      [("pageEnd", .nat c.page), ("lineEnd", .nat c.line), ("phraseEnd", .nat c.phrase),
        ("wordEnd", .nat c.word)]) =
      .ok ⟨some c.page, some c.line, some c.phrase, some c.word⟩ := by
    rw [Record.readMembers_field rfl rfl hpage, Record.readMembers_field rfl rfl hline,
      Record.readMembers_field rfl rfl hphrase, Record.readMembers_field rfl rfl hword]
    rfl
  exact Record.decode_object hmembers rfl

theorem Anchor.read_value {t : Json.Tree} {s : String} (h : Decoder.string source t = .ok s)
    (parts : Parts) :
    record.read "value" source t parts = .ok { parts with value := some s } := by
  simp only [record, h, bind, Except.bind]
  rfl

theorem Anchor.read_indices {t : Json.Tree} {c : Cursor} (h : Cursor.decoder source t = .ok c)
    (parts : Parts) :
    record.read "indices" source t parts = .ok { parts with cursor := some c } := by
  simp only [record, h, bind, Except.bind]
  rfl

theorem Anchor.read_vertices {t : Json.Tree} {vs : List Vertex}
    (h : Decoder.list Vertex.decoder source t = .ok vs) (parts : Parts) :
    record.read "normalizedVertices" source t parts = .ok { parts with vertices := some vs } := by
  simp only [record, h, bind, Except.bind]
  rfl

/-- The reader of anchors keeps the text, the position and the upper corners, and skips the rest. -/
theorem Anchor.decoder_members {value : String} {unit : Value} {q : Quad} {c : Cursor}
    {rest : List (String × Value)} (hq : ∀ x ∈ q.coordinates, x.isFinite) (hc : c.Fits)
    (hrest : ∀ parts, record.readMembers source parts (Value.memberTrees rest) = .ok parts) :
    decoder source (Value.object (("value", .string value) :: ("unitType", unit) ::
        ("normalizedVertices", q.toJson) :: ("indices", c.toJson) :: rest)).toTree =
      .ok ⟨value, c, q.span⟩ := by
  have hvalue : record.read "value" source (Value.string value).toTree {} =
      .ok { value := some value } := rfl
  have hlist : Decoder.list Vertex.decoder source q.toJson.toTree = .ok q.corners :=
    Quad.list_toJson hq
  have hcursor : Cursor.decoder source c.toJson.toTree = .ok c := Cursor.decoder_toJson hc
  have hvertices := read_vertices hlist { value := some value }
  have hindices := read_indices hcursor { value := some value, vertices := some q.corners }
  have hmembers : record.readMembers source {} (Value.memberTrees (("value", .string value) ::
      ("unitType", unit) :: ("normalizedVertices", q.toJson) :: ("indices", c.toJson) :: rest)) =
      .ok ⟨some value, some c, some q.corners⟩ := by
    rw [Record.readMembers_field rfl rfl hvalue, Record.readMembers_skip rfl,
      Record.readMembers_field rfl rfl hvertices, Record.readMembers_field rfl rfl hindices, hrest]
  have hfields := Record.decode_object (a := (⟨value, c, q.corners⟩ : Fields)) hmembers rfl
  exact Decoder.checked_of_ok hfields rfl

theorem Anchor.decoder_toJson {t : Target} {b : Anchor} (hb : t.anchor? = some b)
    (hq : ∀ q, t.quad? = some q → ∀ x ∈ q.coordinates, x.isFinite) (hc : b.cursor.Fits) :
    Anchor.decoder source t.toJson.toTree = .ok b := by
  cases t with
  | notFound => exact absurd hb (Option.some_ne_none b).symm
  | word m =>
    obtain rfl := Option.some.inj hb
    exact Anchor.decoder_members (hq m.quad rfl) hc fun parts => rfl
  | phrase m =>
    obtain rfl := Option.some.inj hb
    exact Anchor.decoder_members (hq m.quad rfl) hc fun parts => Record.readMembers_skip rfl

/-- The text of a found target, in either layout, is read as its anchor. -/
theorem Anchor.ofText_toText {t : Target} {b : Anchor} (hb : t.anchor? = some b)
    (hq : ∀ q, t.quad? = some q → ∀ x ∈ q.coordinates, x.isFinite)
    (hread : ReadBack t.coordinates) (hc : b.cursor.Fits) (layout : Layout) :
    Anchor.ofText (t.toJson.toText layout) = .ok b := by
  have hreadable : t.toJson.Readable := Target.readable_toJson hread fun c h => by
    rw [Target.cursor_of_anchor? hb] at h
    exact Option.some.inj h ▸ hc
  exact Json.decodeText_toText layout hreadable (Anchor.decoder_toJson hb hq hc)

end LayoutTrail
