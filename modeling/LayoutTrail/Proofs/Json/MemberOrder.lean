import LayoutTrail.Proofs.Json.RoundTrip
import Mathlib.Data.List.Induction

/-!
# Members in order

Reading a text as a value puts the members of its objects in the order of their names.  Of several
members with one name the last is kept, and members that are in order stay as they are.  A value that
was printed is therefore read as the value in order, if it is not nested too deeply for the reader.
-/

namespace LayoutTrail.Json

namespace Value

variable {name : String} {v : Value} {m : String × Value} {members : List (String × Value)}

/-! ## One object -/

theorem member?_cons (m : String × Value) (members : List (String × Value)) (name : String) :
    (object (m :: members)).member? name =
      if m.1 = name then some m.2 else (object members).member? name := by
  by_cases h : m.1 = name
  · simp only [member?, List.find?_cons, h, decide_true, Option.map_some, if_true]
  · simp only [member?, List.find?_cons, h, decide_false, if_false]

theorem member?_insertMember (name : String) (v : Value) (members : List (String × Value))
    (name' : String) :
    (object (insertMember name v members)).member? name' =
      if name = name' then some v else (object members).member? name' := by
  induction members with
  | nil => rw [insertMember, member?_cons]
  | cons m members ih =>
    rw [insertMember]
    split
    · rw [member?_cons]
    · split
      next heq =>
        rw [member?_cons, member?_cons, ← heq]
        split <;> rfl
      next hne =>
        rw [member?_cons, ih, member?_cons]
        by_cases hm : m.1 = name'
        · rw [if_pos hm, if_pos hm, if_neg fun h => hne (h.trans hm.symm)]
        · rw [if_neg hm, if_neg hm]

theorem orderMembers_concat (members : List (String × Value)) (m : String × Value) :
    orderMembers (members ++ [m]) = insertMember m.1 m.2 (orderMembers members) := by
  rw [orderMembers, List.foldl_append]
  rfl

/-- A member that no later one replaces is found among the members in order. -/
theorem member?_orderMembers_of_notMem {before after : List (String × Value)}
    (h : name ∉ after.map (·.1)) :
    (object (orderMembers (before ++ (name, v) :: after))).member? name = some v := by
  induction after using List.reverseRecOn with
  | nil => rw [orderMembers_concat, member?_insertMember, if_pos rfl]
  | append_singleton after m ih =>
    simp only [List.map_append, List.mem_append, not_or] at h
    have hm : m.1 ≠ name := fun heq => h.2 (by simp [heq])
    rw [← List.cons_append, ← List.append_assoc, orderMembers_concat, member?_insertMember,
      if_neg hm, ih h.1]

theorem mem_insertMember (h : m ∈ insertMember name v members) : m = (name, v) ∨ m ∈ members := by
  induction members with
  | nil => exact Or.inl (List.mem_singleton.mp h)
  | cons m' members ih =>
    rw [insertMember] at h
    split at h
    · exact List.mem_cons.mp h
    · split at h
      · exact (List.mem_cons.mp h).imp_right (List.mem_cons_of_mem _)
      · rcases List.mem_cons.mp h with rfl | h
        · exact Or.inr List.mem_cons_self
        · exact (ih h).imp_right (List.mem_cons_of_mem _)

theorem mem_of_mem_orderMembers (h : m ∈ orderMembers members) : m ∈ members := by
  induction members using List.reverseRecOn with
  | nil => exact h
  | append_singleton members m' ih =>
    rw [orderMembers_concat] at h
    rcases mem_insertMember h with rfl | h
    · exact List.mem_append_right _ List.mem_cons_self
    · exact List.mem_append_left _ (ih h)

/-- Members in the order of their names, each name once. -/
def InOrder (members : List (String × Value)) : Prop := members.Pairwise fun m m' => m.1 < m'.1

theorem inOrder_insertMember (name : String) (v : Value) (h : InOrder members) :
    InOrder (insertMember name v members) := by
  induction members with
  | nil => exact List.pairwise_singleton _ _
  | cons m members ih =>
    obtain ⟨hm, hmembers⟩ := List.pairwise_cons.mp h
    rw [insertMember]
    split
    next hlt =>
      refine List.pairwise_cons.mpr ⟨fun m' hm' => ?_, h⟩
      rcases List.mem_cons.mp hm' with rfl | hm'
      · exact hlt
      · exact String.lt_trans hlt (hm m' hm')
    next hge =>
      split
      next heq => exact List.pairwise_cons.mpr ⟨fun m' hm' => heq ▸ hm m' hm', hmembers⟩
      next hne =>
        have hlt : m.1 < name := by
          by_cases hlt : m.1 < name
          · exact hlt
          · exact absurd (String.le_antisymm (String.not_lt.mp hlt) (String.not_lt.mp hge)) hne
        refine List.pairwise_cons.mpr ⟨fun m' hm' => ?_, ih hmembers⟩
        rcases mem_insertMember hm' with rfl | hm'
        · exact hlt
        · exact hm m' hm'

theorem inOrder_orderMembers (members : List (String × Value)) : InOrder (orderMembers members) := by
  induction members using List.reverseRecOn with
  | nil => exact List.Pairwise.nil
  | append_singleton members m ih =>
    rw [orderMembers_concat]
    exact inOrder_insertMember _ _ ih

theorem insertMember_of_forall_lt (h : ∀ m ∈ members, m.1 < name) :
    insertMember name v members = members ++ [(name, v)] := by
  induction members with
  | nil => rfl
  | cons m members ih =>
    obtain ⟨hm, hmembers⟩ := List.forall_mem_cons.mp h
    have hne : name ≠ m.1 := fun heq => String.lt_irrefl name (heq ▸ hm)
    rw [insertMember, if_neg (String.lt_asymm hm), if_neg hne, ih hmembers]
    rfl

theorem orderMembers_of_inOrder (h : InOrder members) : orderMembers members = members := by
  induction members using List.reverseRecOn with
  | nil => rfl
  | append_singleton members m ih =>
    obtain ⟨hmembers, _, hlast⟩ := List.pairwise_append.mp h
    rw [orderMembers_concat, ih hmembers,
      insertMember_of_forall_lt fun m' hm' => hlast m' hm' m List.mem_cons_self]

/-- Two members in the wrong order change places. -/
theorem orderMembers_pair_of_lt {name' : String} {v' : Value} (h : name' < name) :
    orderMembers [(name, v), (name', v')] = [(name', v'), (name, v)] := by
  simp only [orderMembers, List.foldl_cons, List.foldl_nil, insertMember, if_pos h]

/-! ## Whole values -/

theorem orderedItems_eq_map (items : List Value) : orderedItems items = items.map ordered := by
  induction items with
  | nil => rfl
  | cons v items ih => rw [orderedItems, ih, List.map_cons]

theorem orderedMembers_eq_map (members : List (String × Value)) :
    orderedMembers members = members.map fun m => (m.1, m.2.ordered) := by
  induction members with
  | nil => rfl
  | cons m members ih => rw [orderedMembers, ih, List.map_cons]

theorem inOrder_map_iff (f : Value → Value) :
    InOrder (members.map fun m => (m.1, f m.2)) ↔ InOrder members := by
  rw [InOrder, InOrder, List.pairwise_map]

/-- An object is in order if its members are and all their values. -/
theorem ordered_object_eq_self_iff : (object members).ordered = object members ↔
    InOrder members ∧ ∀ m ∈ members, m.2.ordered = m.2 := by
  have hvalues : members.map (fun m => (m.1, m.2.ordered)) = members ↔
      ∀ m ∈ members, m.2.ordered = m.2 := by
    conv => lhs; rhs; rw [← List.map_id members]
    rw [List.map_inj_left]
    exact forall₂_congr fun m _ => ⟨congrArg Prod.snd, fun h => Prod.ext rfl h⟩
  rw [ordered, object.injEq, orderedMembers_eq_map]
  constructor
  · intro h
    have hin : InOrder members := h ▸ inOrder_orderMembers _
    rw [orderMembers_of_inOrder ((inOrder_map_iff ordered).mpr hin)] at h
    exact ⟨hin, hvalues.mp h⟩
  · rintro ⟨hin, h⟩
    rw [orderMembers_of_inOrder ((inOrder_map_iff ordered).mpr hin), hvalues.mpr h]

theorem ordered_array_map {α : Type} (encode : α → Value) (as : List α) :
    (array (as.map encode)).ordered = array (as.map fun a => (encode a).ordered) := by
  rw [ordered, orderedItems_eq_map, List.map_map]
  rfl

theorem ordered_float (x : Float) : (float x).ordered = float x := by
  unfold float
  split <;> rfl

mutual

/-- How many containers of a value are open at once. -/
def depth : Value → Nat
  | array items => itemDepth items + 1
  | object members => memberDepth members + 1
  | _ => 0

/-- How many containers of items are open at once. -/
def itemDepth : List Value → Nat
  | [] => 0
  | v :: rest => max v.depth (itemDepth rest)

/-- How many containers of the values of members are open at once. -/
def memberDepth : List (String × Value) → Nat
  | [] => 0
  | (_, v) :: rest => max v.depth (memberDepth rest)

end

theorem depth_array_map_le {α : Type} {encode : α → Value} {n : Nat} (as : List α)
    (h : ∀ a ∈ as, (encode a).depth ≤ n) : (array (as.map encode)).depth ≤ n + 1 := by
  have hitems : itemDepth (as.map encode) ≤ n := by
    induction as with
    | nil => exact Nat.zero_le n
    | cons a as ih =>
      obtain ⟨ha, has⟩ := List.forall_mem_cons.mp h
      rw [List.map_cons, itemDepth]
      exact Nat.max_le.mpr ⟨ha, ih has⟩
  rw [depth]
  omega

theorem depth_float (x : Float) : (float x).depth = 0 := by
  unfold float
  split <;> rfl

end Value

namespace Tree

theorem exists_of_memberValues_cons {m : Name × Tree} {members : List (Name × Tree)} {depth : Nat}
    {ms : List (String × Value)} (h : memberValues depth (m :: members) = .ok ms) :
    ∃ name v rest, m.1 = .ok name ∧ m.2.toValue depth = .ok v ∧
      memberValues depth members = .ok rest ∧ ms = (name, v) :: rest := by
  obtain ⟨_, t⟩ := m
  rw [memberValues] at h
  obtain ⟨name, hname, h⟩ := exists_of_bind_eq_ok h
  obtain ⟨v, hv, h⟩ := exists_of_bind_eq_ok h
  obtain ⟨rest, hrest, h⟩ := exists_of_bind_eq_ok h
  exact ⟨name, v, rest, hname, hv, hrest, (Except.ok.inj h).symm⟩

mutual

/-- A value that was read is in order. -/
theorem ordered_of_toValue {t : Tree} {depth : Nat} {v : Value} (h : t.toValue depth = .ok v) :
    v.ordered = v := by
  match t, depth with
  | .null, _ | .bool _, _ =>
    obtain rfl := Except.ok.inj h
    rfl
  | .number (.ok n), _ | .string (.ok s), _ =>
    obtain rfl := Except.ok.inj h
    rfl
  | .number (.error f), _ | .string (.error f), _ => cases h
  | .array items cut, 0 | .object members cut, 0 => cases h
  | .fault b, _ => cases h
  | .array items cut, depth + 1 =>
    rw [toValue] at h
    obtain ⟨vs, hvs, h⟩ := exists_of_bind_eq_ok h
    obtain ⟨_, _, h⟩ := exists_of_bind_eq_ok h
    obtain rfl := Except.ok.inj h
    rw [Value.ordered, orderedItems_of_itemValues hvs]
  | .object members cut, depth + 1 =>
    rw [toValue] at h
    obtain ⟨ms, hms, h⟩ := exists_of_bind_eq_ok h
    obtain ⟨_, _, h⟩ := exists_of_bind_eq_ok h
    obtain rfl := Except.ok.inj h
    have hordered : ∀ m ∈ Value.orderMembers ms, (m.1, m.2.ordered) = id m := fun m hm => by
      rw [ordered_of_memberValues hms m (Value.mem_of_mem_orderMembers hm)]
      rfl
    rw [Value.ordered, Value.orderedMembers_eq_map, List.map_congr_left hordered, List.map_id,
      Value.orderMembers_of_inOrder (Value.inOrder_orderMembers ms)]

theorem orderedItems_of_itemValues {items : List Tree} {depth : Nat} {vs : List Value}
    (h : itemValues depth items = .ok vs) : Value.orderedItems vs = vs := by
  match items with
  | [] =>
    obtain rfl := Except.ok.inj h
    rfl
  | t :: items =>
    rw [itemValues] at h
    obtain ⟨v, hv, h⟩ := exists_of_bind_eq_ok h
    obtain ⟨rest, hrest, h⟩ := exists_of_bind_eq_ok h
    obtain rfl := Except.ok.inj h
    rw [Value.orderedItems, ordered_of_toValue hv, orderedItems_of_itemValues hrest]

theorem ordered_of_memberValues {members : List (Name × Tree)} {depth : Nat}
    {ms : List (String × Value)} (h : memberValues depth members = .ok ms) :
    ∀ m ∈ ms, m.2.ordered = m.2 := by
  match members with
  | [] =>
    obtain rfl := Except.ok.inj h
    exact fun m hm => absurd hm List.not_mem_nil
  | m :: members =>
    obtain ⟨name, v, rest, _, hv, hrest, rfl⟩ := exists_of_memberValues_cons h
    exact List.forall_mem_cons.mpr ⟨ordered_of_toValue hv, ordered_of_memberValues hrest⟩

end

mutual

/-- A reader that lets more containers be open at once reads the same value. -/
theorem toValue_of_le {t : Tree} {n n' : Nat} {v : Value} (h : t.toValue n = .ok v) (hle : n ≤ n') :
    t.toValue n' = .ok v := by
  match t, n, n' with
  | .null, _, _ | .bool _, _, _ | .number _, _, _ | .string _, _, _ | .fault _, _, _ => exact h
  | .array items cut, 0, _ | .object members cut, 0, _ => cases h
  | .array items cut, n + 1, 0 | .object members cut, n + 1, 0 =>
    exact absurd hle (Nat.not_succ_le_zero n)
  | .array items cut, n + 1, n' + 1 =>
    rw [toValue] at h ⊢
    obtain ⟨vs, hvs, h⟩ := exists_of_bind_eq_ok h
    rw [itemValues_of_le hvs (Nat.le_of_succ_le_succ hle)]
    exact h
  | .object members cut, n + 1, n' + 1 =>
    rw [toValue] at h ⊢
    obtain ⟨ms, hms, h⟩ := exists_of_bind_eq_ok h
    rw [memberValues_of_le hms (Nat.le_of_succ_le_succ hle)]
    exact h

theorem itemValues_of_le {items : List Tree} {n n' : Nat} {vs : List Value}
    (h : itemValues n items = .ok vs) (hle : n ≤ n') : itemValues n' items = .ok vs := by
  match items with
  | [] => exact h
  | t :: items =>
    rw [itemValues] at h ⊢
    obtain ⟨v, hv, h⟩ := exists_of_bind_eq_ok h
    obtain ⟨rest, hrest, h⟩ := exists_of_bind_eq_ok h
    rw [toValue_of_le hv hle, itemValues_of_le hrest hle]
    exact h

theorem memberValues_of_le {members : List (Name × Tree)} {n n' : Nat}
    {ms : List (String × Value)} (h : memberValues n members = .ok ms) (hle : n ≤ n') :
    memberValues n' members = .ok ms := by
  match members with
  | [] => exact h
  | m :: members =>
    obtain ⟨name, v, rest, hname, hv, hrest, rfl⟩ := exists_of_memberValues_cons h
    obtain ⟨_, t⟩ := m
    subst hname
    rw [memberValues, toValue_of_le hv hle, memberValues_of_le hrest hle]
    rfl

end

theorem memberValues_append {depth : Nat} {before after : List (Name × Tree)}
    {ms ms' : List (String × Value)} (h : memberValues depth before = .ok ms)
    (h' : memberValues depth after = .ok ms') :
    memberValues depth (before ++ after) = .ok (ms ++ ms') := by
  induction before generalizing ms with
  | nil =>
    obtain rfl := Except.ok.inj h
    exact h'
  | cons m before ih =>
    obtain ⟨name, v, rest, hname, hv, hrest, rfl⟩ := exists_of_memberValues_cons h
    obtain ⟨_, t⟩ := m
    subst hname
    rw [List.cons_append, memberValues, hv, ih hrest]
    rfl

end Tree

namespace Value

mutual

/-- The value of the tree of a value is the value in order. -/
theorem toValue_toTree {v : Value} {n : Nat} (h : v.depth ≤ n) :
    v.toTree.toValue n = .ok v.ordered := by
  match v, n with
  | .null, _ | .bool _, _ | .number _, _ | .string _, _ => rfl
  | .array items, 0 | .object members, 0 => exact absurd h (Nat.not_succ_le_zero _)
  | .array items, n + 1 =>
    rw [toTree, Tree.toValue, itemValues_itemTrees (Nat.le_of_succ_le_succ h)]
    rfl
  | .object members, n + 1 =>
    rw [toTree, Tree.toValue, memberValues_memberTrees (Nat.le_of_succ_le_succ h)]
    rfl

theorem itemValues_itemTrees {items : List Value} {n : Nat} (h : itemDepth items ≤ n) :
    Tree.itemValues n (itemTrees items) = .ok (orderedItems items) := by
  match items with
  | [] => rfl
  | v :: items =>
    obtain ⟨hv, hitems⟩ := Nat.max_le.mp h
    rw [itemTrees, Tree.itemValues, toValue_toTree hv, itemValues_itemTrees hitems]
    rfl

theorem memberValues_memberTrees {members : List (String × Value)} {n : Nat}
    (h : memberDepth members ≤ n) :
    Tree.memberValues n (memberTrees members) = .ok (orderedMembers members) := by
  match members with
  | [] => rfl
  | (name, v) :: members =>
    obtain ⟨hv, hmembers⟩ := Nat.max_le.mp h
    rw [memberTrees, Tree.memberValues, toValue_toTree hv, memberValues_memberTrees hmembers]
    rfl

end

/-- A value that was printed is read as the value in order. -/
theorem ofText_eq_ordered (layout : Layout) {v : Value} (hv : v.Readable) (hd : v.depth ≤ maxDepth) :
    Value.ofText (v.toText layout) = .ok v.ordered := by
  rw [Value.ofText, ofText_toText layout hv, Tree.Reading.toValue, toValue_toTree hd]
  rfl

theorem holdsValue_toText (layout : Layout) {v : Value} {depth : Nat} (hv : v.Readable)
    (hd : v.depth ≤ depth) : HoldsValue depth (v.toText layout) := by
  rw [HoldsValue, ofText_toText layout hv]
  exact ⟨rfl, _, toValue_toTree hd⟩

/-- Between brackets a value that is not nested too deeply is read as the only item of an array. -/
theorem ofText_bracketed {text : String} {depth : Nat} {v : Value} (h : HoldsValue depth text)
    (hdepth : depth < maxDepth) (hv : Value.ofText text = .ok v) :
    Value.ofText ("[" ++ text ++ "]") = .ok (array [v]) := by
  obtain ⟨htrailing, w, hw⟩ := id h
  obtain rfl : w = v := by
    rw [Value.ofText, Tree.Reading.toValue, Tree.toValue_of_le hw (Nat.le_of_lt hdepth),
      htrailing] at hv
    exact Except.ok.inj hv
  have hitem : (Tree.ofText text).tree.toValue (maxDepth - 1) = .ok w :=
    Tree.toValue_of_le hw (Nat.le_sub_one_of_lt hdepth)
  rw [Value.ofText, Json.ofText_bracketed h, Tree.Reading.toValue]
  change Tree.toValue (maxDepth - 1 + 1) _ >>= _ = _
  rw [Tree.toValue, Tree.itemValues, hitem]
  rfl

end Value

end LayoutTrail.Json
