import LayoutTrail.Proofs.Json.Decoding

/-!
# Reading and skipping

What a decoder accepts holds no fault, so a reader that does not know the member can skip it.  With
this, two records can be read from the same members: what one reads, the other reads too or skips.
-/

namespace LayoutTrail.Json

theorem mismatch_ne_ok {α : Type} (expected : String) (t : Tree) (a : α) :
    mismatch expected t ≠ .ok a := by
  intro h
  cases t with
  | number n => cases n <;> cases h
  | string s => cases s <;> cases h
  | null | bool | array | object | fault => cases h

theorem eq_none_of_endOf {cut : Option Break} {u : Unit} (h : endOf cut = .ok u) : cut = none := by
  cases cut with
  | none => rfl
  | some b => cases h

theorem eq_some_of_required {α : Type} {missing : Nat → String → ReadError} {i : Nat} {name : String}
    {o : Option α} {a : α} (h : required missing i name o = .ok a) : o = some a := by
  cases o with
  | none => cases h
  | some a' => exact congrArg some (Except.ok.inj h)

theorem eq_none_of_noMore {source : Source} {length : Nat} {ts : List Tree} {cut : Option Break}
    {u : Unit} (h : Decoder.noMore source length ts cut = .ok u) :
    ts.length ≤ length ∧ cut = none := by
  unfold Decoder.noMore at h
  split at h
  next hle => exact ⟨hle, eq_none_of_endOf h⟩
  next => cases source <;> cases h

namespace Tree

variable {ts : List Tree} {members : List (Name × Tree)}

theorem skippedItems_eq_none_iff : skippedItems ts = none ↔ ∀ t ∈ ts, t.skippedFault = none := by
  induction ts with
  | nil => simp [skippedItems]
  | cons t ts ih =>
    rw [skippedItems, List.forall_mem_cons, ← ih]
    cases t.skippedFault <;> simp

theorem skippedMembers_eq_none_iff :
    skippedMembers members = none ↔ ∀ m ∈ members, m.2.skippedFault = none := by
  induction members with
  | nil => simp [skippedMembers]
  | cons m members ih =>
    rw [skippedMembers, List.forall_mem_cons, ← ih]
    cases m.2.skippedFault <;> simp

theorem skippedFault_array (h : ∀ t ∈ ts, t.skippedFault = none) :
    (array ts none).skippedFault = none := by
  rw [skippedFault, skippedItems_eq_none_iff.mpr h]
  rfl

theorem skippedFault_object (h : ∀ m ∈ members, m.2.skippedFault = none) :
    (object members none).skippedFault = none := by
  rw [skippedFault, skippedMembers_eq_none_iff.mpr h]
  rfl

end Tree

/-- A text is read if its value is and nothing else follows. -/
theorem decodeReading_eq_ok_iff {α : Type} {d : Decoder α} {r : Tree.Reading} {a : α} :
    decodeReading d r = .ok a ↔ d .text r.tree = .ok a ∧ r.trailing = false := by
  rw [decodeReading]
  cases d .text r.tree with
  | error e => simp [bind, Except.bind]
  | ok a => cases r.trailing <;> simp [bind, Except.bind]

namespace Decoder

variable {α β : Type} {d : Decoder α}

/-- A decoder that accepts only what holds no fault to stumble over. -/
def ReadsWhole (d : Decoder α) : Prop := ∀ ⦃source t a⦄, d source t = .ok a → t.skippedFault = none

theorem readsWhole_string : string.ReadsWhole := by
  intro source t a h
  unfold string at h
  split at h
  next => rfl
  next => exact absurd h (mismatch_ne_ok _ _ _)

theorem readsWhole_float : float.ReadsWhole := by
  intro source t a h
  unfold float at h
  split at h
  next => rfl
  next => exact absurd h (mismatch_ne_ok _ _ _)

/-- What is read as a value that may be `null` is `null` or such a value. -/
theorem eq_null_or_of_optional {source : Source} {t : Tree} {o : Option α}
    (h : d.optional source t = .ok o) :
    (t = .null ∧ o = none) ∨ ∃ a, o = some a ∧ d source t = .ok a := by
  unfold optional at h
  split at h
  next => exact .inl ⟨rfl, (Except.ok.inj h).symm⟩
  next =>
    obtain ⟨a, ha, rfl⟩ := exists_of_map_eq_ok h
    exact .inr ⟨a, rfl, ha⟩

theorem readsWhole_optional (hd : d.ReadsWhole) : d.optional.ReadsWhole := by
  intro source t o h
  rcases eq_null_or_of_optional h with ⟨rfl, _⟩ | ⟨a, _, ha⟩
  · rfl
  · exact hd ha

theorem exists_of_checked {check : α → Except String β} {source : Source} {t : Tree} {b : β}
    (h : d.checked check source t = .ok b) : ∃ a, d source t = .ok a ∧ check a = .ok b := by
  obtain ⟨a, ha, h⟩ := exists_of_bind_eq_ok h
  refine ⟨a, ha, ?_⟩
  split at h
  next hb => exact Except.ok.inj h ▸ hb
  next => cases h

theorem readsWhole_checked {check : α → Except String β} (hd : d.ReadsWhole) :
    (d.checked check).ReadsWhole := by
  intro source t b h
  obtain ⟨a, ha, _⟩ := exists_of_checked h
  exact hd ha

theorem skippedFault_of_items (hd : d.ReadsWhole) {source : Source} {ts : List Tree} {as : List α}
    (h : items d source ts = .ok as) : ∀ t ∈ ts, t.skippedFault = none := by
  induction ts generalizing as with
  | nil => exact List.forall_mem_nil _
  | cons t ts ih =>
    obtain ⟨a, ha, h⟩ := exists_of_bind_eq_ok h
    obtain ⟨rest, hrest, _⟩ := exists_of_bind_eq_ok h
    exact List.forall_mem_cons.mpr ⟨hd ha, ih hrest⟩

/-- What is read as a sequence of fixed length is a complete array of this length. -/
theorem exists_of_exactly {source : Source} {n : Nat} {t : Tree} {as : List α}
    (h : exactly n d source t = .ok as) :
    ∃ ts, t = .array ts none ∧ items d source ts = .ok as := by
  unfold exactly at h
  split at h
  next ts cut =>
    obtain ⟨as', has, h⟩ := exists_of_bind_eq_ok h
    split at h
    next =>
      obtain ⟨_, _, h⟩ := exists_of_bind_eq_ok h
      cases h
    next =>
      obtain ⟨_, hmore, heq⟩ := exists_of_bind_eq_ok h
      -- no more items than were read, so those that were read are all
      obtain ⟨hle, rfl⟩ := eq_none_of_noMore hmore
      rw [List.take_of_length_le hle] at has
      exact ⟨ts, rfl, Except.ok.inj heq ▸ has⟩
  next => exact absurd h (mismatch_ne_ok _ _ _)

theorem readsWhole_exactly (hd : d.ReadsWhole) (n : Nat) : (exactly n d).ReadsWhole := by
  intro source t as h
  obtain ⟨ts, rfl, hitems⟩ := exists_of_exactly h
  exact Tree.skippedFault_array (skippedFault_of_items hd hitems)

/-- A sequence of fixed length is read as a sequence of any length too. -/
theorem list_of_exactly {source : Source} {n : Nat} {t : Tree} {as : List α}
    (h : exactly n d source t = .ok as) : list d source t = .ok as := by
  obtain ⟨ts, rfl, hitems⟩ := exists_of_exactly h
  rw [list, hitems]
  rfl

end Decoder

namespace Record

variable {σ σ' α α' : Type} {r : Record σ α} {r' : Record σ' α'} {source : Source}
  {parts parts' done : σ} {name : String} {t : Tree} {rest members : List (Name × Tree)}

/-- How a first member was passed: it was read as a field that had not been met, or skipped. -/
theorem exists_of_readMembers_cons {m : Name × Tree}
    (h : r.readMembers source parts (m :: rest) = .ok done) : ∃ name, m.1 = .ok name ∧
      ((r.fields.contains name = true ∧ r.has name parts = false ∧
          ∃ mid, r.read name source m.2 parts = .ok mid ∧ r.readMembers source mid rest = .ok done) ∨
        (r.fields.contains name = false ∧ m.2.skippedFault = none ∧
          r.readMembers source parts rest = .ok done)) := by
  obtain ⟨kept, t⟩ := m
  rw [readMembers] at h
  obtain ⟨name, hname, h⟩ := exists_of_bind_eq_ok h
  have hkept : kept = .ok name := by
    cases kept <;> cases hname
    rfl
  refine ⟨name, hkept, ?_⟩
  split at h
  next hfield =>
    split at h
    next => cases h
    next hnew =>
      obtain ⟨mid, hmid, h⟩ := exists_of_bind_eq_ok h
      exact .inl ⟨hfield, eq_false_of_ne_true hnew, mid, hmid, h⟩
  next hfield =>
    split at h
    next => cases h
    next hskip => exact .inr ⟨eq_false_of_ne_true hfield, hskip, h⟩

/-- Members that are skipped may as well not be there. -/
theorem readMembers_filter {p : Name × Tree → Bool}
    (h : ∀ m ∈ members, p m = false → m.2.skippedFault = none ∧
      ∃ name, m.1 = .ok name ∧ r.fields.contains name = false) :
    r.readMembers source parts (members.filter p) = r.readMembers source parts members := by
  induction members generalizing parts with
  | nil => rfl
  | cons m rest ih =>
    obtain ⟨hm, hrest⟩ := List.forall_mem_cons.mp h
    rw [List.filter_cons]
    cases hp : p m with
    | true =>
      obtain ⟨name, t⟩ := m
      simp only [if_true]
      rw [readMembers.eq_def, readMembers.eq_def]
      simp only [ih hrest]
    | false =>
      obtain ⟨hskip, name, hname, hfield⟩ := hm hp
      obtain ⟨_, t⟩ := m
      subst hname
      rw [readMembers_cons_of_skip hfield hskip]
      exact ih hrest

/-- A record whose fields are read only from what holds no fault to stumble over. -/
def ReadsWhole (r : Record σ α) : Prop := ∀ ⦃name source t parts parts'⦄,
  r.read name source t parts = .ok parts' → t.skippedFault = none

theorem skippedFault_of_readItems {names : List String} {ts : List Tree} (hr : r.ReadsWhole)
    (hlength : ts.length ≤ names.length) (h : r.readItems source parts names ts = .ok done) :
    ∀ t ∈ ts, t.skippedFault = none := by
  induction ts generalizing parts names with
  | nil => exact List.forall_mem_nil _
  | cons t ts ih =>
    cases names with
    | nil => cases hlength
    | cons name names =>
      obtain ⟨mid, hmid, h⟩ := exists_of_bind_eq_ok h
      exact List.forall_mem_cons.mpr ⟨hr hmid, ih (Nat.le_of_succ_le_succ hlength) h⟩

theorem skippedFault_of_readMembers (hr : r.ReadsWhole)
    (h : r.readMembers source parts members = .ok done) :
    ∀ m ∈ members, m.2.skippedFault = none := by
  induction members generalizing parts with
  | nil => exact List.forall_mem_nil _
  | cons m rest ih =>
    obtain ⟨_, _, ⟨_, _, mid, hmid, h⟩ | ⟨_, hskip, h⟩⟩ := exists_of_readMembers_cons h
    · exact List.forall_mem_cons.mpr ⟨hr hmid, ih h⟩
    · exact List.forall_mem_cons.mpr ⟨hskip, ih h⟩

/-- What is read of an object as a whole. -/
theorem exists_of_decode_object {cut : Option Break} {a : α}
    (h : r.decode source (.object members cut) = .ok a) : ∃ done,
      r.readMembers source r.start members = .ok done ∧ cut = none ∧
        r.finish (fun _ name => .missingField name) done = .ok a := by
  obtain ⟨done, hdone, h⟩ := exists_of_bind_eq_ok h
  obtain ⟨_, hend, h⟩ := exists_of_bind_eq_ok h
  exact ⟨done, hdone, eq_none_of_endOf hend, h⟩

/-- What is read of an array as a record is complete and has no more items than fields. -/
theorem exists_of_decode_array {ts : List Tree} {cut : Option Break} {a : α}
    (h : r.decode source (.array ts cut) = .ok a) : ∃ done,
      r.readItems source r.start r.fields ts = .ok done ∧ ts.length ≤ r.fields.length ∧
        cut = none := by
  obtain ⟨done, hdone, h⟩ := exists_of_bind_eq_ok h
  have hrest : (r.finish (fun i _ => .wrongLength i r.arity) done >>= fun a =>
      Decoder.noMore source r.fields.length ts cut >>= fun _ => .ok a) = .ok a := by
    dsimp only at h
    split at h
    next =>
      obtain ⟨_, _, h⟩ := exists_of_bind_eq_ok h
      exact h
    next => exact h
  obtain ⟨_, _, hrest⟩ := exists_of_bind_eq_ok hrest
  obtain ⟨_, hmore, _⟩ := exists_of_bind_eq_ok hrest
  exact ⟨done, hdone, eq_none_of_noMore hmore⟩

theorem readsWhole_decode (hr : r.ReadsWhole) : Decoder.ReadsWhole r.decode := by
  intro source t a h
  unfold decode at h
  split at h
  next members cut =>
    obtain ⟨done, hdone, rfl, _⟩ := exists_of_decode_object h
    exact Tree.skippedFault_object (skippedFault_of_readMembers hr hdone)
  next ts cut =>
    obtain ⟨done, hdone, hle, rfl⟩ := exists_of_decode_array h
    exact Tree.skippedFault_array (skippedFault_of_readItems hr hle hdone)
  next => exact absurd h (mismatch_ne_ok _ _ _)

/-- How a record can be read as another with fewer fields: what a field is read into is viewed as what
the other record reads, or as nothing new where the other does not have the field.  Only good parts
need a view, and what is read later must not have mended them. -/
structure Views (r : Record σ α) (r' : Record σ' α') (view : σ → σ') (Good : σ → Prop) : Prop where
  skip : ∀ name, r.fields.contains name = false → r'.fields.contains name = false
  read : ∀ source name t parts mid, r.fields.contains name = true → r.has name parts = false →
    r.read name source t parts = .ok mid → Good mid → Good parts ∧
      (r'.fields.contains name = true ∧ r'.has name (view parts) = false ∧
          r'.read name source t (view parts) = .ok (view mid) ∨
        r'.fields.contains name = false ∧ t.skippedFault = none ∧ view mid = view parts)

theorem Views.readMembers {view : σ → σ'} {Good : σ → Prop} (hv : Views r r' view Good)
    (h : r.readMembers source parts members = .ok done) (hdone : Good done) :
    Good parts ∧ r'.readMembers source (view parts) members = .ok (view done) := by
  -- that the parts are good is known of the last ones only and comes back with the induction
  induction members generalizing parts with
  | nil =>
    obtain rfl : parts = done := Except.ok.inj h
    exact ⟨hdone, rfl⟩
  | cons m rest ih =>
    obtain ⟨name, hname, hstep⟩ := exists_of_readMembers_cons h
    obtain ⟨_, t⟩ := m
    subst hname
    rcases hstep with ⟨hfield, hnew, mid, hmid, h⟩ | ⟨hfield, hfault, h⟩
    · obtain ⟨hgood, hrest⟩ := ih h
      obtain ⟨hparts, ⟨hfield', hnew', hmid'⟩ | ⟨hfield', hfault, hview⟩⟩ :=
        hv.read source name t parts mid hfield hnew hmid hgood
      · exact ⟨hparts, (readMembers_cons_of_read hfield' hnew' hmid').trans hrest⟩
      · rw [hview] at hrest
        exact ⟨hparts, (readMembers_cons_of_skip hfield' hfault).trans hrest⟩
    · obtain ⟨hparts, hrest⟩ := ih h
      exact ⟨hparts, (readMembers_cons_of_skip (hv.skip name hfield) hfault).trans hrest⟩

end Record

end LayoutTrail.Json
