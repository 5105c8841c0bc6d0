import LayoutTrail.FieldMap
import Mathlib.Data.List.Induction

/-!
# Fields put one after the other

Of the values put under a name the last one counts, but the name keeps the place of the first.  Putting
fields whose names are all different changes nothing about them.
-/

namespace LayoutTrail.FieldMap

variable {α β : Type} {m : FieldMap α} {name : String} {a : α} {entries : List (String × α)}

theorem lookup_cons_eq_ite (name : String) (entry : String × α) (entries : List (String × α)) :
    (entry :: entries).lookup name = if name = entry.1 then some entry.2 else entries.lookup name := by
  obtain ⟨first, b⟩ := entry
  rw [List.lookup_cons]
  by_cases h : name = first
  · simp only [h, beq_self_eq_true, if_true]
  · simp only [h, beq_eq_false_iff_ne.mpr h, if_false]

theorem get?_eq_lookup (m : FieldMap α) (name : String) : m.get? name = m.entries.lookup name := by
  rw [get?]
  induction m.entries with
  | nil => rfl
  | cons entry rest ih =>
    rw [lookup_cons_eq_ite, List.find?_cons]
    by_cases h : entry.1 = name
    · simp only [h, decide_true, Option.map_some, if_true]
    · simp only [h, decide_false, ih, if_neg (Ne.symm h)]

theorem lookup_putIn (name : String) (a : α) (entries : List (String × α)) (name' : String) :
    (putIn name a entries).lookup name' = if name' = name then some a else entries.lookup name' := by
  induction entries with
  | nil => rw [putIn, lookup_cons_eq_ite]
  | cons entry rest ih =>
    rw [putIn]
    by_cases hfirst : entry.1 = name
    · rw [if_pos hfirst, lookup_cons_eq_ite, lookup_cons_eq_ite, hfirst]
      by_cases h : name' = name
      · rw [if_pos h, if_pos h]
      · rw [if_neg h, if_neg h, if_neg h]
    · rw [if_neg hfirst, lookup_cons_eq_ite, lookup_cons_eq_ite, ih]
      by_cases h : name' = entry.1
      · rw [if_pos h, if_pos h, if_neg (h ▸ hfirst)]
      · rw [if_neg h, if_neg h]

theorem get?_put (m : FieldMap α) (name : String) (a : α) (name' : String) :
    (m.put name a).get? name' = if name' = name then some a else m.get? name' := by
  rw [get?_eq_lookup, get?_eq_lookup]
  exact lookup_putIn name a m.entries name'

theorem putIn_of_notMem (h : name ∉ entries.map (·.1)) :
    putIn name a entries = entries ++ [(name, a)] := by
  induction entries with
  | nil => rfl
  | cons entry rest ih =>
    obtain ⟨first, b⟩ := entry
    simp only [List.map_cons, List.mem_cons, not_or] at h
    rw [putIn, if_neg (Ne.symm h.1), ih h.2, List.cons_append]

theorem ofList_concat (entries : List (String × α)) (entry : String × α) :
    ofList (entries ++ [entry]) = (ofList entries).put entry.1 entry.2 := by
  rw [ofList, List.foldl_append]
  rfl

/-- Each name stands where it was put first. -/
theorem names_ofList (entries : List (String × α)) :
    (ofList entries).names = (entries.map (·.1)).eraseDups := by
  induction entries using List.reverseRecOn with
  | nil => rfl
  | append_singleton entries entry ih =>
    rw [ofList_concat, names_put, ih, List.map_append, List.eraseDups_append, List.map_singleton]
    by_cases h : entry.1 ∈ entries.map (·.1)
    · rw [if_pos (List.mem_eraseDups.mpr h)]
      simp [List.removeAll, h]
    · rw [if_neg (fun hm => h (List.mem_eraseDups.mp hm))]
      simp [List.removeAll, h, List.eraseDups_cons]

/-- Under each name is what was put there last. -/
theorem get?_ofList (entries : List (String × α)) (name : String) :
    (ofList entries).get? name = entries.reverse.lookup name := by
  induction entries using List.reverseRecOn with
  | nil => rfl
  | append_singleton entries entry ih =>
    rw [ofList_concat, get?_put, ih, List.reverse_append, List.reverse_singleton,
      List.singleton_append, lookup_cons_eq_ite]

/-- Entries with different names are kept as they are. -/
theorem entries_ofList (h : (entries.map (·.1)).Nodup) : (ofList entries).entries = entries := by
  induction entries using List.reverseRecOn with
  | nil => rfl
  | append_singleton entries entry ih =>
    rw [List.map_append, List.nodup_append] at h
    obtain ⟨hinit, _, hne⟩ := h
    have hnew : entry.1 ∉ entries.map (·.1) := fun hm => hne _ hm _ (by simp) rfl
    have hput : (ofList (entries ++ [entry])).entries =
        putIn entry.1 entry.2 (ofList entries).entries := by
      rw [ofList_concat]
      rfl
    rw [hput, ih hinit, putIn_of_notMem hnew]

theorem eq_of_entries_eq {m' : FieldMap α} (h : m.entries = m'.entries) : m = m' := by
  obtain ⟨entries, _⟩ := m
  obtain rfl : entries = m'.entries := h
  rfl

theorem ofList_entries (m : FieldMap α) : ofList m.entries = m :=
  eq_of_entries_eq (entries_ofList m.distinct)

end LayoutTrail.FieldMap
