import LayoutTrail.Proofs.Json.Decoding

/-!
# What is refused in a value

A value that was read holds no more faults of its text.  A decoder that is given such a value may
still refuse it, but then for what it holds: it finds another type, a number out of range, another
length, a missing or repeated field or a name it does not know.
-/

namespace LayoutTrail.Json

variable {α β σ : Type}

/-- A reading that has no objection to the text. -/
def TextAccepted (x : Except ReadError α) : Prop := ∀ f, x ≠ .error (.text f)

theorem textAccepted_ok (a : α) : TextAccepted (.ok a) := nofun

theorem textAccepted_error {e : ReadError} (h : ∀ f, e ≠ .text f) :
    TextAccepted (.error e : Except ReadError α) :=
  fun f heq => h f (Except.error.inj heq)

theorem TextAccepted.bind {x : Except ReadError α} {f : α → Except ReadError β}
    (hx : TextAccepted x) (hf : ∀ a, TextAccepted (f a)) : TextAccepted (x >>= f) := by
  cases x with
  | error e => exact fun fault h => hx fault (congrArg Except.error (Except.error.inj h))
  | ok a => exact hf a

theorem textAccepted_required {missing : Nat → String → ReadError} {i : Nat} {name : String}
    (h : ∀ f, missing i name ≠ .text f) (a : Option α) :
    TextAccepted (required missing i name a) := by
  cases a with
  | none => exact textAccepted_error h
  | some a => exact textAccepted_ok a

theorem textAccepted_mismatch (expected : String) (v : Value) :
    TextAccepted (mismatch expected v.toTree : Except ReadError α) := by
  cases v <;> exact nofun

namespace Decoder

variable {source : Source}

theorem textAccepted_string (v : Value) : TextAccepted (string source v.toTree) := by
  cases v with
  | string s => exact textAccepted_ok s
  | null | bool | number | array | object => exact nofun

theorem textAccepted_natBelow (bound : Nat) (kind : String) (v : Value) :
    TextAccepted (natBelow bound kind source v.toTree) := by
  cases v with
  | number n =>
    cases n with
    | float x => exact nofun
    | integer n =>
      change TextAccepted (if _ then _ else _)
      split <;> exact nofun
  | null | bool | string | array | object => exact nofun

theorem textAccepted_checked {d : Decoder α} {t : Tree} (h : TextAccepted (d source t))
    (check : α → Except String β) : TextAccepted (d.checked check source t) := by
  refine h.bind fun a => ?_
  cases check a <;> exact nofun

end Decoder

namespace Record

/-- No field that is read from a value is refused for the text, and neither is the whole. -/
structure AcceptsText (r : Record σ α) : Prop where
  read : ∀ (name : String) (v : Value) (parts : σ),
    TextAccepted (r.read name .value v.toTree parts)
  finish : ∀ (missing : Nat → String → ReadError) (parts : σ),
    (∀ i name f, missing i name ≠ .text f) → TextAccepted (r.finish missing parts)

namespace AcceptsText

variable {r : Record σ α}

theorem readMembers (hr : r.AcceptsText) (members : List (String × Value)) (parts : σ) :
    TextAccepted (r.readMembers .value parts (Value.memberTrees members)) := by
  induction members generalizing parts with
  | nil => exact textAccepted_ok parts
  | cons m members ih =>
    obtain ⟨name, v⟩ := m
    rw [Value.memberTrees, Record.readMembers]
    refine (textAccepted_ok name).bind fun name => ?_
    split
    · have hfield : TextAccepted (r.read name .value v.toTree parts >>= fun parts =>
          r.readMembers .value parts (Value.memberTrees members)) := (hr.read name v parts).bind ih
      split
      · refine TextAccepted.bind (textAccepted_error ?_) fun _ => hfield
        exact fun f h => ReadError.noConfusion h
      · exact hfield
    · rw [v.skippedFault_toTree]
      exact ih parts

theorem readItems (hr : r.AcceptsText) (names : List String) (items : List Value) (parts : σ) :
    TextAccepted (r.readItems .value parts names (Value.itemTrees items)) := by
  induction names generalizing items parts with
  | nil => exact textAccepted_ok parts
  | cons name names ih =>
    cases items with
    | nil => exact textAccepted_ok parts
    | cons v items => exact (hr.read name v parts).bind fun parts' => ih items parts'

/-- A record that is read from a value is not refused for the text. -/
theorem decode (hr : r.AcceptsText) (v : Value) : TextAccepted (r.decode .value v.toTree) := by
  cases v with
  | object members =>
    rw [Value.toTree, decode_complete]
    exact (hr.readMembers members r.start).bind fun parts =>
      hr.finish _ parts fun i name f h => ReadError.noConfusion h
  | array items =>
    have hend : TextAccepted (endOf none) := textAccepted_ok ()
    rw [Value.toTree, Record.decode]
    refine (hr.readItems r.fields items r.start).bind fun parts => ?_
    have hwhole : TextAccepted (do
        let a ← r.finish (fun i _ => .wrongLength i r.arity) parts
        Decoder.noMore .value r.fields.length (Value.itemTrees items) none
        .ok a) := by
      refine TextAccepted.bind ?_ fun a => TextAccepted.bind ?_ fun _ => textAccepted_ok a
      · exact hr.finish _ parts fun i name f h => ReadError.noConfusion h
      -- In a text further items would be a fault of the text; here they make a wrong length.
      rw [Decoder.noMore]
      split
      · exact hend
      · exact textAccepted_error fun f h => ReadError.noConfusion h
    split
    · exact hend.bind fun _ => hwhole
    · exact hwhole
  | null => exact textAccepted_mismatch _ .null
  | bool b => exact textAccepted_mismatch _ (.bool b)
  | number n => exact textAccepted_mismatch _ (.number n)
  | string s => exact textAccepted_mismatch _ (.string s)

end AcceptsText

end Record

end LayoutTrail.Json
