import LayoutTrail.Json.Decode
import LayoutTrail.Proofs.Json.RoundTrip

/-!
# Decoding what was encoded

A decoder meets the members of an object in their order.  One lemma says what it does with a field,
one what it does with a member it does not know; lists are decoded item by item.
-/

namespace LayoutTrail.Json

mutual

/-- A value that was printed holds no fault to stumble over. -/
theorem Value.skippedFault_toTree (v : Value) : v.toTree.skippedFault = none := by
  match v with
  | .null | .bool _ | .number _ | .string _ => rfl
  | .array items =>
    rw [toTree, Tree.skippedFault, skippedItems_itemTrees items]
    rfl
  | .object members =>
    rw [toTree, Tree.skippedFault, skippedMembers_memberTrees members]
    rfl

theorem Value.skippedItems_itemTrees (items : List Value) :
    Tree.skippedItems (itemTrees items) = none := by
  match items with
  | [] => rfl
  | v :: items =>
    rw [itemTrees, Tree.skippedItems, skippedFault_toTree v, skippedItems_itemTrees items]
    rfl

theorem Value.skippedMembers_memberTrees (members : List (String × Value)) :
    Tree.skippedMembers (memberTrees members) = none := by
  match members with
  | [] => rfl
  | (name, v) :: members =>
    rw [memberTrees, Tree.skippedMembers, skippedFault_toTree v,
      skippedMembers_memberTrees members]
    rfl

end

namespace Record

variable {σ α : Type} {r : Record σ α} {source : Source} {parts parts' : σ} {name : String}
  {t : Tree} {rest : List (Name × Tree)} {v : Value} {members : List (String × Value)}

/-- A field that has not been met is read. -/
theorem readMembers_cons_of_read (hname : r.fields.contains name = true)
    (hnew : r.has name parts = false) (hread : r.read name source t parts = .ok parts') :
    r.readMembers source parts ((.ok name, t) :: rest) = r.readMembers source parts' rest := by
  simp only [readMembers, kept, hname, hnew, hread, bind, Except.bind]
  rfl

/-- A member with another name is skipped. -/
theorem readMembers_cons_of_skip (hname : r.fields.contains name = false)
    (hskip : t.skippedFault = none) :
    r.readMembers source parts ((.ok name, t) :: rest) = r.readMembers source parts rest := by
  simp only [readMembers, kept, hname, hskip, bind, Except.bind]
  rfl

theorem readMembers_field (hname : r.fields.contains name = true) (hnew : r.has name parts = false)
    (hread : r.read name source v.toTree parts = .ok parts') :
    r.readMembers source parts (Value.memberTrees ((name, v) :: members)) =
      r.readMembers source parts' (Value.memberTrees members) := by
  rw [Value.memberTrees, readMembers_cons_of_read hname hnew hread]

theorem readMembers_skip (hname : r.fields.contains name = false) :
    r.readMembers source parts (Value.memberTrees ((name, v) :: members)) =
      r.readMembers source parts (Value.memberTrees members) := by
  rw [Value.memberTrees, readMembers_cons_of_skip hname v.skippedFault_toTree]

/-- An object is read if its members are and if nothing is missing then. -/
theorem decode_object {a : α}
    (hread : r.readMembers source r.start (Value.memberTrees members) = .ok parts)
    (hfinish : r.finish (fun _ name => .missingField name) parts = .ok a) :
    r.decode source (Value.object members).toTree = .ok a := by
  rw [Value.toTree, decode, hread]
  exact hfinish

/-- An object of a single field is read if that field is. -/
theorem decode_singleton {field : String} {a : α} (hname : r.fields.contains field = true)
    (hnew : r.has field r.start = false) (hread : r.read field source v.toTree r.start = .ok parts)
    (hfinish : r.finish (fun _ name => .missingField name) parts = .ok a) :
    r.decode source (Value.object [(field, v)]).toTree = .ok a := by
  refine decode_object ?_ hfinish
  rw [readMembers_field hname hnew hread]
  rfl

/-- A complete object is read from its members alone. -/
theorem decode_complete (r : Record σ α) (source : Source) (members : List (Name × Tree)) :
    r.decode source (.object members none) =
      (r.readMembers source r.start members).bind
        (r.finish fun _ name => .missingField name) := by
  rw [decode]
  cases r.readMembers source r.start members <;> rfl

end Record

/-- Items are decoded one after the other. -/
theorem Decoder.items_itemTrees {α : Type} {d : Decoder α} {source : Source} {encode : α → Value}
    (as : List α) (h : ∀ a ∈ as, d source (encode a).toTree = .ok a) :
    Decoder.items d source (Value.itemTrees (as.map encode)) = .ok as := by
  induction as with
  | nil => rfl
  | cons a as ih =>
    obtain ⟨ha, has⟩ := List.forall_mem_cons.mp h
    rw [List.map_cons, Value.itemTrees, items, ha, ih has]
    rfl

theorem Decoder.list_array {α : Type} {d : Decoder α} {source : Source} {encode : α → Value}
    (as : List α) (h : ∀ a ∈ as, d source (encode a).toTree = .ok a) :
    Decoder.list d source (Value.array (as.map encode)).toTree = .ok as := by
  rw [Value.toTree, list, items_itemTrees as h]
  rfl

theorem Decoder.list_singleton {α : Type} (d : Decoder α) (source : Source) (t : Tree) :
    Decoder.list d source (.array [t] none) = (d source t).map fun a => [a] := by
  rw [list, items]
  cases d source t <;> rfl

theorem Value.length_itemTrees (items : List Value) : (itemTrees items).length = items.length := by
  induction items with
  | nil => rfl
  | cons v items ih => rw [itemTrees, List.length_cons, ih, List.length_cons]

theorem Decoder.exactly_array {α : Type} {d : Decoder α} {source : Source} {encode : α → Value}
    {n : Nat} (as : List α) (hn : as.length = n)
    (h : ∀ a ∈ as, d source (encode a).toTree = .ok a) :
    Decoder.exactly n d source (Value.array (as.map encode)).toTree = .ok as := by
  have hlength : (Value.itemTrees (as.map encode)).length = n := by
    rw [Value.length_itemTrees, List.length_map, hn]
  rw [Value.toTree, exactly, List.take_of_length_le (Nat.le_of_eq hlength), items_itemTrees as h]
  simp only [bind, Except.bind, noMore, hlength, Nat.lt_irrefl, Nat.le_refl, if_false, if_true]
  rfl

theorem Decoder.natBelow_nat {bound n : Nat} (h : n < bound) (kind : String) (source : Source) :
    Decoder.natBelow bound kind source (Value.nat n).toTree = .ok n := by
  rw [Value.nat, Value.toTree, natBelow]
  simp only [kept, bind, Except.bind]
  rw [if_pos (by simp; omega)]
  rfl

theorem Decoder.float_float {x : Float} (h : x.isFinite) (source : Source) :
    Decoder.float source (Value.float x).toTree = .ok x := by
  rw [Value.float, if_pos h]
  rfl

/-- Members with any names are decoded one after the other. -/
theorem Decoder.map_object {α : Type} {d : Decoder α} {source : Source} (encode : α → Value)
    (as : List (String × α)) (h : ∀ a ∈ as, d source (encode a.2).toTree = .ok a.2) :
    Decoder.map d source (Value.object (as.map fun a => (a.1, encode a.2))).toTree = .ok as := by
  have hentries : entries d source (Value.memberTrees (as.map fun a => (a.1, encode a.2))) =
      .ok as := by
    induction as with
    | nil => rfl
    | cons a as ih =>
      obtain ⟨ha, has⟩ := List.forall_mem_cons.mp h
      rw [List.map_cons, Value.memberTrees, entries, ha, ih has]
      rfl
  rw [Value.toTree, map, hentries]
  rfl

/-- What a condition admits is decoded as what the condition makes of it. -/
theorem Decoder.checked_of_ok {α β : Type} {d : Decoder α} {check : α → Except String β}
    {source : Source} {t : Tree} {a : α} {b : β} (h : d source t = .ok a) (hcheck : check a = .ok b) :
    d.checked check source t = .ok b := by
  simp only [checked, h, hcheck, bind, Except.bind]

/-- What is not `null` is decoded as it would be if it had to be there. -/
theorem Decoder.optional_of_ok {α : Type} {d : Decoder α} {source : Source} {t : Tree} {a : α}
    (ht : t ≠ .null) (h : d source t = .ok a) : d.optional source t = .ok (some a) := by
  cases t with
  | null => exact absurd rfl ht
  | bool | number | string | array | object | fault =>
    rw [optional, h]
    · rfl
    · exact ht

/-- A text that was printed is decoded like the value it was printed from. -/
theorem decodeText_toText {α : Type} {d : Decoder α} {v : Value} {a : α} (layout : Layout)
    (hv : v.Readable) (h : d .text v.toTree = .ok a) : decodeText d (v.toText layout) = .ok a := by
  rw [decodeText, Value.ofText_toText layout hv, decodeReading, h]
  rfl

end LayoutTrail.Json
