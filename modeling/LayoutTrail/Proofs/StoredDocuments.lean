import LayoutTrail.Proofs.Json.MemberOrder
import LayoutTrail.Proofs.StoredAnchors

/-!
# Stored documents

A document that is written as a text is read back, by itself or under `lineList` in an object with any
other members.  The reader sees the members of every object in the order of their names, so each level
is read from its members in that order.
-/

namespace LayoutTrail

open Json (Decoder Record Value Source Layout Number Tree Name)
open Json.Value

/-! ## The coordinates of a document -/

/-- The coordinates that a phrase is written with. -/
def Phrase.coordinates (p : Phrase) : List Float :=
  p.quad.coordinates ++ p.words.flatMap (·.quad.coordinates)

/-- The coordinates that a line is written with. -/
def Line.coordinates (l : Line) : List Float := l.phrases.flatMap Phrase.coordinates

/-- The coordinates that a page is written with. -/
def Page.coordinates (p : Page) : List Float := p.lines.flatMap Line.coordinates

/-- The coordinates that a document is written with. -/
def Document.coordinates (d : Document) : List Float := d.pages.flatMap Page.coordinates

/-! ## What is written can be read -/

theorem Quad.readable_toBoxJson {q : Quad} (h : ReadBack q.coordinates) : q.toBoxJson.Readable :=
  readable_object_cons.mpr ⟨Quad.readable_toJson h, readable_object_nil⟩

theorem Word.readable_toJson {w : Word} (h : ReadBack w.quad.coordinates) : w.toJson.Readable :=
  readable_object_cons.mpr ⟨readable_string w.text,
    readable_object_cons.mpr ⟨Quad.readable_toBoxJson h, readable_object_nil⟩⟩

theorem Phrase.readable_toJson {p : Phrase} (h : ReadBack p.coordinates) : p.toJson.Readable := by
  obtain ⟨hquad, hwords⟩ := readBack_append.mp h
  have hwords := readable_array_map p.words fun w hw =>
    Word.readable_toJson (List.forall_mem_flatMap.mp hwords w hw)
  exact readable_object_cons.mpr ⟨readable_string p.text, readable_object_cons.mpr
    ⟨Quad.readable_toBoxJson hquad, readable_object_cons.mpr ⟨hwords, readable_object_nil⟩⟩⟩

/-- An object whose only member is a list can be read if the items can. -/
theorem readable_object_list {α : Type} {encode : α → Value} (field : String) (as : List α)
    (h : ∀ a ∈ as, (encode a).Readable) : (object [(field, array (as.map encode))]).Readable :=
  readable_object_cons.mpr ⟨readable_array_map as h, readable_object_nil⟩

theorem Line.readable_toJson {l : Line} (h : ReadBack l.coordinates) : l.toJson.Readable :=
  readable_object_list "phrases" l.phrases fun p hp =>
    Phrase.readable_toJson (List.forall_mem_flatMap.mp h p hp)

theorem Page.readable_toJson {p : Page} (h : ReadBack p.coordinates) : p.toJson.Readable :=
  readable_object_list "lines" p.lines fun l hl =>
    Line.readable_toJson (List.forall_mem_flatMap.mp h l hl)

theorem Document.readable_toJson {d : Document} (h : ReadBack d.coordinates) : d.toJson.Readable :=
  readable_object_list "pages" d.pages fun p hp =>
    Page.readable_toJson (List.forall_mem_flatMap.mp h p hp)

/-! ## How deep it is nested -/

theorem Vertex.depth_toJson (v : Vertex) : v.toJson.depth = 1 := by
  simp [toJson, depth, memberDepth, depth_float]

theorem Quad.depth_toBoxJson_le (q : Quad) : q.toBoxJson.depth ≤ 3 := by
  have hquad : q.toJson.depth ≤ 2 :=
    depth_array_map_le q.corners fun v _ => Nat.le_of_eq v.depth_toJson
  simp only [toBoxJson, depth, memberDepth]
  omega

theorem Phrase.depth_toJson_le (p : Phrase) : p.toJson.depth ≤ 6 := by
  have hbox := p.quad.depth_toBoxJson_le
  have hwords : (array (p.words.map Word.toJson)).depth ≤ 5 := by
    refine depth_array_map_le p.words fun w _ => ?_
    have hbox := w.quad.depth_toBoxJson_le
    simp only [Word.toJson, depth, memberDepth]
    omega
  simp only [toJson, depth, memberDepth] at hwords ⊢
  omega

theorem depth_object_list_le {α : Type} {encode : α → Value} {n : Nat} (field : String) (as : List α)
    (h : ∀ a ∈ as, (encode a).depth ≤ n) : (object [(field, array (as.map encode))]).depth ≤ n + 2 := by
  have has := depth_array_map_le as h
  rw [depth, memberDepth, memberDepth]
  omega

theorem Document.depth_toJson_le (d : Document) : d.toJson.depth ≤ 12 :=
  depth_object_list_le "pages" d.pages fun p _ =>
    depth_object_list_le "lines" p.lines fun l _ =>
      depth_object_list_le "phrases" l.phrases fun p _ => p.depth_toJson_le

/-! ## What is read is the document -/

theorem Vertex.ordered_toJson (v : Vertex) : v.toJson.ordered = v.toJson := by
  have horder : InOrder [("x", .float v.x), ("y", .float v.y)] :=
    List.pairwise_pair.mpr (show "x" < "y" by decide)
  rw [toJson, ordered, orderedMembers_eq_map]
  simp only [List.map_cons, List.map_nil, ordered_float, orderMembers_of_inOrder horder]

theorem Quad.ordered_toJson (q : Quad) : q.toJson.ordered = q.toJson := by
  simp only [toJson, ordered_array_map, Vertex.ordered_toJson]

theorem Quad.ordered_toBoxJson (q : Quad) : q.toBoxJson.ordered = q.toBoxJson := by
  rw [toBoxJson, ordered, orderedMembers_eq_map]
  simp only [List.map_cons, List.map_nil, ordered_toJson]
  rfl

theorem Word.ordered_toJson (w : Word) :
    w.toJson.ordered = object [("boundingBox", w.quad.toBoxJson), ("text", .string w.text)] := by
  rw [toJson, ordered, orderedMembers_eq_map]
  simp only [List.map_cons, List.map_nil, Quad.ordered_toBoxJson, ordered]
  rw [orderMembers_pair_of_lt (by decide)]

theorem Phrase.ordered_toJson (p : Phrase) :
    p.toJson.ordered = object [("boundingBox", p.quad.toBoxJson), ("text", .string p.text),
      ("words", array (p.words.map fun w => w.toJson.ordered))] := by
  have horder (v : Value) : orderMembers
      [("text", .string p.text), ("boundingBox", p.quad.toBoxJson), ("words", v)] =
      [("boundingBox", p.quad.toBoxJson), ("text", .string p.text), ("words", v)] := by
    refine (orderMembers_concat [_, _] ("words", v)).trans ?_
    rw [orderMembers_pair_of_lt (by decide), insertMember_of_forall_lt]
    · rfl
    · exact List.forall_mem_cons.mpr ⟨show "boundingBox" < "words" by decide,
        List.forall_mem_singleton.mpr (show "text" < "words" by decide)⟩
  rw [toJson, ordered, orderedMembers_eq_map]
  simp only [List.map_cons, List.map_nil, Quad.ordered_toBoxJson, ordered_array_map]
  exact congrArg object (horder _)

theorem ordered_object_list {α : Type} (field : String) (encode : α → Value) (as : List α) :
    (object [(field, array (as.map encode))]).ordered =
      object [(field, array (as.map fun a => (encode a).ordered))] := by
  rw [ordered, orderedMembers, orderedMembers, ordered_array_map]
  rfl

variable {source : Source}

theorem Quad.boxDecoder_toBoxJson {q : Quad} (h : ∀ x ∈ q.coordinates, x.isFinite) :
    Quad.boxDecoder source q.toBoxJson.toTree = .ok q := by
  have hread : boxRecord.read "normalizedVertices" source q.toJson.toTree none = .ok (some q) := by
    simp only [boxRecord, decoder_toJson h, Except.map]
  exact Record.decode_singleton rfl rfl hread rfl

/-- A word is read from its box and text. -/
theorem Word.decode_members {t u : Tree} {text : String} {q : Quad}
    (hbox : Quad.boxDecoder source t = .ok q) (htext : Decoder.string source u = .ok text) :
    Word.decoder source (.object [(.ok "boundingBox", t), (.ok "text", u)] none) = .ok ⟨text, q⟩ := by
  rw [decoder, Record.decode_complete]
  simp [record, Record.readMembers, Json.kept, Json.required, hbox, htext,
    bind, Except.bind]

/-- A phrase is read from its box, text and words. -/
theorem Phrase.decode_members {t u v : Tree} {text : String} {q : Quad} {words : List Word}
    (hbox : Quad.boxDecoder source t = .ok q) (htext : Decoder.string source u = .ok text)
    (hwords : Decoder.list Word.decoder source v = .ok words) :
    Phrase.decoder source
        (.object [(.ok "boundingBox", t), (.ok "text", u), (.ok "words", v)] none) =
      .ok ⟨text, q, words⟩ := by
  rw [decoder, Record.decode_complete]
  simp [record, Record.readMembers, Json.kept, Json.required, hbox, htext, hwords,
    bind, Except.bind]

/-- A record whose only field is a list is read from that list. -/
theorem decode_listRecord {α β : Type} {name field : String} {mayMiss : Bool} {d : Decoder α}
    {build : List α → β} {encode : α → Value} (as : List α)
    (h : ∀ a ∈ as, d source (encode a).toTree = .ok a) :
    (listRecord name field mayMiss d build).decode source
        (object [(field, array (as.map encode))]).toTree = .ok (build as) := by
  have hlist := Decoder.list_array as h
  have hread : (listRecord name field mayMiss d build).read field source
      (array (as.map encode)).toTree none = .ok (some as) := by
    simp only [listRecord, hlist, Except.map]
  exact Record.decode_singleton (by simp [listRecord]) rfl hread rfl

theorem Word.decoder_ordered {w : Word} (h : ∀ x ∈ w.quad.coordinates, x.isFinite) :
    Word.decoder source w.toJson.ordered.toTree = .ok w := by
  rw [ordered_toJson]
  exact decode_members (Quad.boxDecoder_toBoxJson h) rfl

theorem Phrase.decoder_ordered {p : Phrase} (h : ∀ x ∈ p.coordinates, x.isFinite) :
    Phrase.decoder source p.toJson.ordered.toTree = .ok p := by
  obtain ⟨hquad, hwords⟩ := List.forall_mem_append.mp h
  rw [ordered_toJson]
  refine decode_members (Quad.boxDecoder_toBoxJson hquad) rfl (Decoder.list_array p.words ?_)
  exact fun w hw => Word.decoder_ordered (List.forall_mem_flatMap.mp hwords w hw)

theorem Line.decoder_ordered {l : Line} (h : ∀ x ∈ l.coordinates, x.isFinite) :
    Line.decoder source l.toJson.ordered.toTree = .ok l := by
  rw [toJson, ordered_object_list]
  exact decode_listRecord l.phrases fun p hp =>
    Phrase.decoder_ordered (List.forall_mem_flatMap.mp h p hp)

theorem Page.decoder_ordered {p : Page} (h : ∀ x ∈ p.coordinates, x.isFinite) :
    Page.decoder source p.toJson.ordered.toTree = .ok p := by
  rw [toJson, ordered_object_list]
  exact decode_listRecord p.lines fun l hl =>
    Line.decoder_ordered (List.forall_mem_flatMap.mp h l hl)

theorem Document.decoder_ordered {d : Document} (h : ∀ x ∈ d.coordinates, x.isFinite) :
    Document.decoder source d.toJson.ordered.toTree = .ok d := by
  rw [toJson, ordered_object_list]
  exact decode_listRecord d.pages fun p hp =>
    Page.decoder_ordered (List.forall_mem_flatMap.mp h p hp)

/-! ## By itself and in a wrapper -/

namespace Document

variable {d : Document}

theorem ordered_ordered_toJson (d : Document) : d.toJson.ordered.ordered = d.toJson.ordered :=
  Tree.ordered_of_toValue (toValue_toTree (Nat.le_refl _))

theorem ofJson_ordered (h : ∀ x ∈ d.coordinates, x.isFinite) : ofJson d.toJson.ordered = .ok d := by
  have hbare : d.toJson.ordered.member? wrapperName = none := by
    rw [toJson, ordered_object_list]
    rfl
  rw [ofJson, ordered_ordered_toJson, hbare, Option.getD_none, Json.decodeValue,
    ordered_ordered_toJson]
  exact decoder_ordered h

/-- What stands under `lineList` is the document, whatever else the object holds. -/
theorem ofJson_of_member? {v : Value} (hv : v.ordered = v)
    (hm : v.member? wrapperName = some d.toJson.ordered) (h : ∀ x ∈ d.coordinates, x.isFinite) :
    ofJson v = .ok d := by
  rw [ofJson, hv, hm, Option.getD_some, Json.decodeValue, ordered_ordered_toJson]
  exact decoder_ordered h

/-- A member with another name than the wrapper's whose value is not nested too deeply. -/
def Beside (m : Name × Tree) : Prop :=
  ∃ name v, m.1 = .ok name ∧ name ≠ wrapperName ∧ m.2.toValue (Json.maxDepth - 1) = .ok v

theorem exists_memberValues_of_beside {members : List (Name × Tree)}
    (h : ∀ m ∈ members, Beside m) :
    ∃ ms, Tree.memberValues (Json.maxDepth - 1) members = .ok ms ∧ wrapperName ∉ ms.map (·.1) := by
  induction members with
  | nil => exact ⟨[], rfl, List.not_mem_nil⟩
  | cons m members ih =>
    obtain ⟨⟨name, v, hname, hne, hv⟩, hmembers⟩ := List.forall_mem_cons.mp h
    obtain ⟨ms, hms, hnot⟩ := ih hmembers
    refine ⟨(name, v) :: ms, ?_, ?_⟩
    · rw [Tree.memberValues.eq_def]
      simp only [hname, hv, hms, bind, Except.bind]
    · rw [List.map_cons, List.mem_cons, not_or]
      exact ⟨hne.symm, hnot⟩

theorem ofText_of_wrapped {text : String} {t : Tree} {before after : List (Name × Tree)}
    (htext : Tree.ofText text = ⟨.object (before ++ (.ok wrapperName, t) :: after) none, false⟩)
    (hbeside : ∀ m ∈ before ++ after, Beside m)
    (ht : t.toValue (Json.maxDepth - 1) = .ok d.toJson.ordered)
    (h : ∀ x ∈ d.coordinates, x.isFinite) : ofText text = .ok d := by
  obtain ⟨hbefore, hafter⟩ := List.forall_mem_append.mp hbeside
  obtain ⟨ms, hms, _⟩ := exists_memberValues_of_beside hbefore
  obtain ⟨ms', hms', hnot⟩ := exists_memberValues_of_beside hafter
  have hdocument : Tree.memberValues (Json.maxDepth - 1) ((.ok wrapperName, t) :: after) =
      .ok ((wrapperName, d.toJson.ordered) :: ms') := by
    rw [Tree.memberValues, ht, hms']
    rfl
  have hmembers := Tree.memberValues_append hms hdocument
  have hvalue : (Tree.object (before ++ (.ok wrapperName, t) :: after) none).toValue Json.maxDepth =
      .ok (object (orderMembers (ms ++ (wrapperName, d.toJson.ordered) :: ms'))) := by
    rw [Json.maxDepth, Tree.toValue]
    exact (congrArg (· >>= _) hmembers).trans rfl
  have hread : Value.ofText text =
      .ok (object (orderMembers (ms ++ (wrapperName, d.toJson.ordered) :: ms'))) := by
    rw [Value.ofText, htext, Tree.Reading.toValue, hvalue]
    rfl
  rw [ofText, hread]
  exact ofJson_of_member? (Tree.ordered_of_toValue hvalue) (member?_orderMembers_of_notMem hnot) h

theorem toValue_toText (h : ReadBack d.coordinates) (layout : Layout) :
    (Tree.ofText (d.toJson.toText layout)).tree.toValue (Json.maxDepth - 1) =
      .ok d.toJson.ordered := by
  rw [ofText_toText layout (readable_toJson h)]
  exact toValue_toTree (Nat.le_trans d.depth_toJson_le (by decide))

theorem beside_textTrees {members : List (String × String)}
    (h : ∀ m ∈ members, m.1 ≠ wrapperName ∧ Json.HoldsValue (Json.maxDepth - 1) m.2) :
    ∀ m ∈ Json.textTrees members, Beside m := by
  intro m hm
  obtain ⟨m, hmem, rfl⟩ := List.mem_map.mp hm
  obtain ⟨hne, _, v, hv⟩ := h m hmem
  exact ⟨m.1, v, rfl, hne, hv⟩

/-- The text of a document is read as the document: by itself, under `lineList` in an object around it
whose other members are any texts that hold values, and under `lineList` in any other text of such an
object.  Of the coordinates it is assumed that they are read back as they are printed. -/
theorem read_bare_and_wrapped (hfinite : ∀ x ∈ d.coordinates, x.isFinite)
    (hread : ReadBack d.coordinates) (layout : Layout) :
    ofText (d.toJson.toText layout) = .ok d ∧
      (∀ outer (before after : List (String × String)),
        (∀ m ∈ before ++ after, m.1 ≠ wrapperName ∧ Json.HoldsValue (Json.maxDepth - 1) m.2) →
        ofText (Json.objectText outer
          (before ++ (wrapperName, d.toJson.toText layout) :: after)) = .ok d) ∧
      ∀ text before after,
        Tree.ofText text = ⟨.object (before ++
          (.ok wrapperName, (Tree.ofText (d.toJson.toText layout)).tree) :: after) none, false⟩ →
        (∀ m ∈ before ++ after, Beside m) → ofText text = .ok d := by
  have hvalue := toValue_toText hread layout
  refine ⟨?_, fun outer before after h => ?_, fun text before after htext h => ?_⟩
  · rw [ofText, ofText_eq_ordered layout (readable_toJson hread)
      (Nat.le_trans d.depth_toJson_le (by decide))]
    exact ofJson_ordered hfinite
  · have hall : ∀ m ∈ before ++ (wrapperName, d.toJson.toText layout) :: after,
        Json.HoldsValue (Json.maxDepth - 1) m.2 := by
      intro m hm
      rcases List.mem_append.mp hm with hm | hm
      · exact (h m (List.mem_append_left _ hm)).2
      · rcases List.mem_cons.mp hm with rfl | hm
        · exact holdsValue_toText layout (readable_toJson hread)
            (Nat.le_trans d.depth_toJson_le (by decide))
        · exact (h m (List.mem_append_right _ hm)).2
    have htext := Json.ofText_objectText outer hall
    rw [Json.textTrees, List.map_append, List.map_cons] at htext
    refine ofText_of_wrapped htext ?_ hvalue hfinite
    rw [← List.map_append]
    exact beside_textTrees h
  · exact ofText_of_wrapped htext h hvalue hfinite

/-- A document with an empty page, an empty line and a phrase without words. -/
def draft : Document :=
  let box : Quad := .ofEdges 0 0 0.5 0.5
  ⟨[⟨[]⟩, ⟨[⟨[]⟩, ⟨[⟨"", box, []⟩, ⟨"\"No.\"\n7", box, [⟨"\"No.\"", box⟩, ⟨"7", box⟩]⟩]⟩]⟩]⟩

/-- A list that may stand under `pages` beside a document. -/
def strayPages : Value := .array [.null, .object [("lines", .string "")]]

theorem read_draft :
    (∀ x ∈ draft.coordinates, x.isFinite) ∧ ReadBack draft.coordinates ∧
      (∀ m ∈ [("pages", strayPages.toText .pretty)],
        m.1 ≠ wrapperName ∧ Json.HoldsValue (Json.maxDepth - 1) m.2) ∧
      ofText (draft.toJson.toText .pretty) = .ok draft ∧
      ofText (Json.objectText .compact
        [("pages", strayPages.toText .pretty), ("lineList", draft.toJson.toText .pretty)]) =
        .ok draft := by
  have hfinite : ∀ x ∈ draft.coordinates, x.isFinite := by decide +kernel
  have hread : ReadBack draft.coordinates := by
    refine readBack_of_zero_or_half fun x hx => ?_
    simp only [draft, coordinates, Page.coordinates, Line.coordinates, Phrase.coordinates,
      Quad.coordinates, Quad.corners, Quad.ofEdges, List.flatMap_cons, List.flatMap_nil,
      List.append_nil, List.nil_append, List.cons_append, List.mem_cons, List.not_mem_nil] at hx
    tauto
  have hstray : Json.HoldsValue (Json.maxDepth - 1) (strayPages.toText .pretty) :=
    holdsValue_toText .pretty (fun n hn => absurd hn List.not_mem_nil) (by decide)
  have hbeside : ∀ m ∈ [("pages", strayPages.toText .pretty)],
      m.1 ≠ wrapperName ∧ Json.HoldsValue (Json.maxDepth - 1) m.2 :=
    List.forall_mem_singleton.mpr ⟨by decide, hstray⟩
  obtain ⟨hbare, hwrapped, _⟩ := read_bare_and_wrapped hfinite hread .pretty
  exact ⟨hfinite, hread, hbeside, hbare, hwrapped .compact [("pages", _)] [] hbeside⟩

end Document

end LayoutTrail
