/-!
# Named fields in order

A list of names with values in which no name occurs twice.  Putting a value under a name that is
already there keeps its place.
-/

namespace LayoutTrail

/-- Names with values, each name once. -/
structure FieldMap (α : Type) where
  entries : List (String × α)
  distinct : (entries.map (·.1)).Nodup

namespace FieldMap

variable {α : Type}

/-- No fields. -/
def empty : FieldMap α := ⟨[], List.nodup_nil⟩

/-- The names in order. -/
def names (m : FieldMap α) : List String := m.entries.map (·.1)

/-- The number of fields. -/
def size (m : FieldMap α) : Nat := m.entries.length

/-- The value under a name. -/
def get? (m : FieldMap α) (name : String) : Option α :=
  (m.entries.find? (·.1 = name)).map (·.2)

/-- Puts a value under a name in a list: in place of the one that is there, or at the end. -/
def putIn (name : String) (a : α) : List (String × α) → List (String × α)
  | [] => [(name, a)]
  | (name', a') :: rest =>
    if name' = name then (name', a) :: rest else (name', a') :: putIn name a rest

theorem names_putIn (name : String) (a : α) (entries : List (String × α)) :
    (putIn name a entries).map (·.1) =
      if name ∈ entries.map (·.1) then entries.map (·.1) else entries.map (·.1) ++ [name] := by
  induction entries with
  | nil => simp [putIn]
  | cons entry rest ih =>
    obtain ⟨name', a'⟩ := entry
    by_cases h : name' = name
    · simp [putIn, h]
    · simp only [putIn, h, if_false, List.map_cons, ih, List.mem_cons, Ne.symm h, false_or]
      split <;> simp

/-- Puts a value under a name. -/
def put (m : FieldMap α) (name : String) (a : α) : FieldMap α where
  entries := putIn name a m.entries
  distinct := by
    rw [names_putIn]
    split
    · exact m.distinct
    · rename_i h
      simp only [List.nodup_append, m.distinct, true_and]
      refine ⟨by simp, ?_⟩
      intro x hx y hy
      simp only [List.mem_singleton] at hy
      rintro rfl
      exact h (hy ▸ hx)

/-- Puts values under names one after the other. -/
def ofList (entries : List (String × α)) : FieldMap α :=
  entries.foldl (fun m entry => m.put entry.1 entry.2) empty

theorem names_put (m : FieldMap α) (name : String) (a : α) :
    (m.put name a).names = if name ∈ m.names then m.names else m.names ++ [name] :=
  names_putIn name a m.entries

end FieldMap

end LayoutTrail
