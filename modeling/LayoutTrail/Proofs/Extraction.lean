import LayoutTrail.Proofs.Checking
import LayoutTrail.Proofs.Fields
import LayoutTrail.Template

/-!
# Extraction field by field

What is extracted under a name is what the steps that were added last under this name lead to from the
start of the document, whatever else the template holds and whether the trails are taken all at once or
one after the other.  The fields stand in the order of their first additions.
-/

namespace LayoutTrail

variable {options : Options} {d : Document}

theorem Trail.stepsOf_parallel (options : Options) (parallel : Bool) (specs : List StepSpec) :
    stepsOf { options with parallel } specs = stepsOf options specs := by
  induction specs with
  | nil => rfl
  | cons spec specs ih =>
    have hspec : Step.ofSpec { options with parallel } spec = Step.ofSpec options spec := rfl
    rw [stepsOf, stepsOf, hspec, ih]

/-- Which trail steps make does not depend on how many trails are taken at once. -/
theorem Trail.ofSpecs_parallel (options : Options) (parallel : Bool) (specs : List StepSpec) :
    ofSpecs { options with parallel } specs = ofSpecs options specs := by
  rw [ofSpecs, ofSpecs, stepsOf_parallel]

namespace Template

/-- The template that comes of adding fields one after the other. -/
def ofAdditions (adds : List (String × List StepSpec)) : Template :=
  adds.foldl (fun t f => t.addField f.1 f.2) empty

theorem fields_ofAdditions (adds : List (String × List StepSpec)) :
    (ofAdditions adds).fields = .ofList adds :=
  (List.foldl_hom Template.fields fun _ _ => rfl).symm

theorem exists_of_compileEntries_cons {name : String} {specs : List StepSpec}
    {entries : List (String × List StepSpec)} {trails : List (String × Trail)}
    (h : compileEntries options ((name, specs) :: entries) = .ok trails) : ∃ trail rest,
      Trail.ofSpecs options specs = .ok trail ∧ compileEntries options entries = .ok rest ∧
        trails = (name, trail) :: rest := by
  rw [compileEntries] at h
  cases htrail : Trail.ofSpecs options specs with
  | error e =>
    rw [htrail] at h
    cases h
  | ok trail =>
    cases hrest : compileEntries options entries with
    | error e =>
      rw [htrail, hrest] at h
      cases h
    | ok rest =>
      rw [htrail, hrest] at h
      exact ⟨trail, rest, rfl, rfl, (Except.ok.inj h).symm⟩

/-- Under each name is the trail of the steps under this name. -/
theorem lookup_compileEntries {entries : List (String × List StepSpec)}
    {trails : List (String × Trail)} (h : compileEntries options entries = .ok trails)
    (name : String) : trails.lookup name =
      (entries.lookup name).bind fun specs => (Trail.ofSpecs options specs).toOption := by
  induction entries generalizing trails with
  | nil =>
    obtain rfl : [] = trails := Except.ok.inj h
    rfl
  | cons entry entries ih =>
    obtain ⟨trail, rest, htrail, hrest, rfl⟩ := exists_of_compileEntries_cons h
    rw [FieldMap.lookup_cons_eq_ite, FieldMap.lookup_cons_eq_ite]
    by_cases hname : name = entry.1
    · rw [if_pos hname, if_pos hname, Option.bind_some, htrail]
      rfl
    · rw [if_neg hname, if_neg hname]
      exact ih hrest

theorem exists_ofSpecs_of_lookup {entries : List (String × List StepSpec)}
    {trails : List (String × Trail)} (h : compileEntries options entries = .ok trails)
    {name : String} {specs : List StepSpec} (hspecs : entries.lookup name = some specs) :
    ∃ trail, Trail.ofSpecs options specs = .ok trail := by
  induction entries generalizing trails with
  | nil => cases hspecs
  | cons entry entries ih =>
    obtain ⟨trail, rest, htrail, hrest, rfl⟩ := exists_of_compileEntries_cons h
    rw [FieldMap.lookup_cons_eq_ite] at hspecs
    by_cases hname : name = entry.1
    · rw [if_pos hname] at hspecs
      exact ⟨trail, Option.some.inj hspecs ▸ htrail⟩
    · rw [if_neg hname] at hspecs
      exact ih hrest hspecs

theorem compileEntries_of_compile {t : Template} {e : Extractor} (h : t.compile options = .ok e) :
    compileEntries options t.fields.entries = .ok e.trails.entries := by
  unfold compile at h
  split at h
  · cases h
  next trails htrails =>
    obtain rfl := Except.ok.inj h
    exact htrails

theorem compileEntries_ofAdditions {adds : List (String × List StepSpec)} {e : Extractor}
    (h : (ofAdditions adds).compile options = .ok e) :
    compileEntries options (FieldMap.ofList adds).entries = .ok e.trails.entries :=
  fields_ofAdditions adds ▸ compileEntries_of_compile h

end Template

namespace Extractor

/-- Putting the results together again neither merges nor moves fields. -/
theorem entries_extract (e : Extractor) (d : Document) :
    (e.extract d).fields.entries = e.trails.entries.map fun f => (f.1, f.2.resolve d) := by
  have hnames : (e.trails.entries.map fun f => (f.1, f.2.resolve d)).map (·.1) =
      e.trails.entries.map (·.1) := by
    rw [List.map_map]
    rfl
  simp only [extract, mapInTasks_eq_map, ite_self]
  exact FieldMap.entries_ofList (hnames ▸ e.trails.distinct)

theorem names_extract (e : Extractor) (d : Document) : (e.extract d).fields.names = e.names := by
  rw [FieldMap.names, entries_extract, List.map_map]
  rfl

theorem get?_extract (e : Extractor) (d : Document) (name : String) :
    (e.extract d).get? name = (e.trails.get? name).map (·.resolve d) := by
  rw [Extraction.get?, FieldMap.get?, entries_extract, List.find?_map, Option.map_map, FieldMap.get?,
    Option.map_map]
  rfl

end Extractor

namespace Extraction

/-- What is found keeps its place. -/
theorem values_eq_filterMap (e : Extraction) :
    e.values = e.fields.entries.filterMap fun f =>
      if f.2.isFound then some (f.1, f.2.value) else none := by
  let found := (e.fields.entries.filter (·.2.isFound)).map fun f => (f.1, f.2.value)
  have hnames : found.map (·.1) = (e.fields.entries.filter (·.2.isFound)).map (·.1) := by
    rw [List.map_map]
    rfl
  have hdistinct : (found.map (·.1)).Nodup := by
    rw [hnames]
    exact (List.filter_sublist.map _).nodup e.fields.distinct
  have hfound : found = e.fields.entries.filterMap fun f =>
      if f.2.isFound then some (f.1, f.2.value) else none := by
    simp only [found, ← List.filterMap_eq_map, List.filterMap_filter, Function.comp_apply]
  rw [values, FieldMap.entries_ofList hdistinct, hfound]

theorem length_values (e : Extraction) : e.values.length = e.foundCount := by
  rw [values_eq_filterMap, foundCount]
  induction e.fields.entries with
  | nil => rfl
  | cons f rest ih =>
    rw [List.filterMap_cons, List.countP_cons]
    by_cases hf : f.2.isFound
    · rw [if_pos hf, if_pos hf, List.length_cons, ih]
    · rw [if_neg hf, if_neg hf, ih, Nat.add_zero]

end Extraction

namespace Extractor

variable {adds : List (String × List StepSpec)} {e : Extractor}

theorem names_of_compile (h : (Template.ofAdditions adds).compile options = .ok e) :
    e.names = (adds.map (·.1)).eraseDups := by
  rw [← FieldMap.names_ofList]
  exact Template.names_compileEntries (Template.compileEntries_ofAdditions h)

/-- Under each name is the target of the trail that was added last there. -/
theorem get?_extract_of_compile (h : (Template.ofAdditions adds).compile options = .ok e)
    (d : Document) (name : String) : (e.extract d).get? name =
      (adds.reverse.lookup name).bind fun specs =>
        (Trail.ofSpecs options specs).toOption.map (·.resolve d) := by
  have hlookup := Template.lookup_compileEntries (Template.compileEntries_ofAdditions h) name
  rw [← FieldMap.get?_eq_lookup, ← FieldMap.get?_eq_lookup, FieldMap.get?_ofList] at hlookup
  rw [get?_extract, hlookup, Option.map_bind]
  rfl

/-- Of a template made by any additions, names repeated or not: its names stand once each in the order
of their first additions; the target of a name is what the steps added last under it (the first from
the end) lead to from the start of the document, so that other additions, their order and the way the
trails are taken have no part in it; and the values are those of the found fields, in this order. -/
theorem extract_fieldwise (h : (Template.ofAdditions adds).compile options = .ok e)
    (d : Document) :
    (e.names.Nodup ∧ e.names = (adds.map (·.1)).eraseDups ∧
      (e.extract d).fields.entries.map (·.1) = e.names) ∧
    (∀ name specs, adds.reverse.lookup name = some specs →
      ∃ trail, Trail.ofSpecs options specs = .ok trail ∧
        (e.extract d).get? name = some (trail.resolveFrom d .seed)) ∧
    (∀ name, name ∉ adds.map (·.1) → (e.extract d).get? name = none) ∧
    (∀ adds' parallel e', (Template.ofAdditions adds').compile { options with parallel } = .ok e' →
      ∀ name, adds'.reverse.lookup name = adds.reverse.lookup name →
        (e'.extract d).get? name = (e.extract d).get? name) ∧
    (e.extract d).values = ((e.extract d).fields.entries.filterMap fun f =>
      if f.2.isFound then some (f.1, f.2.value) else none) ∧
    (e.extract d).foundCount = (e.extract d).values.length := by
  refine ⟨⟨e.trails.distinct, names_of_compile h, names_extract e d⟩, ?_, ?_, ?_,
    Extraction.values_eq_filterMap _, (Extraction.length_values _).symm⟩
  · intro name specs hspecs
    have hlookup : (FieldMap.ofList adds).entries.lookup name = some specs := by
      rw [← FieldMap.get?_eq_lookup, FieldMap.get?_ofList, hspecs]
    obtain ⟨trail, htrail⟩ :=
      Template.exists_ofSpecs_of_lookup (Template.compileEntries_ofAdditions h) hlookup
    refine ⟨trail, htrail, ?_⟩
    rw [get?_extract_of_compile h, hspecs, Option.bind_some, htrail]
    rfl
  · intro name hname
    have hnone : adds.reverse.lookup name = none := by
      rw [List.lookup_eq_none_iff]
      intro entry hentry
      refine bne_iff_ne.mpr fun he => hname ?_
      exact List.mem_map.mpr ⟨entry, List.mem_reverse.mp hentry, he.symm⟩
    rw [get?_extract_of_compile h, hnone, Option.bind_none]
  · intro adds' parallel e' h' name hname
    rw [get?_extract_of_compile h, get?_extract_of_compile h', hname]
    simp only [Trail.ofSpecs_parallel]

/-- A page with one line of three words. -/
def invoice : Document :=
  let box : Quad := .ofEdges 0 0 0.5 0.5
  ⟨[⟨[⟨[⟨"Total 12 USD", box, [⟨"Total", box⟩, ⟨"12", box⟩, ⟨"USD", box⟩]⟩]⟩]⟩]⟩

/-- The steps that were first added for the total find nothing, but are replaced. -/
theorem extract_fieldwise_invoice :
    let last : List StepSpec := [⟨1, .after, "Total", .word⟩, ⟨1, .after, ".+", .word⟩]
    let adds := [("total", [⟨1, .after, "Sum", .word⟩]), ("date", [⟨1, .after, "Date", .word⟩]),
      ("total", last)]
    ∃ e trail, (Template.ofAdditions adds).compile {} = .ok e ∧ Trail.ofSpecs {} last = .ok trail ∧
      (e.extract invoice).values = [("total", "12")] ∧ e.names = ["total", "date"] ∧
      (e.extract invoice).get? "total" = some (trail.resolveFrom invoice .seed) ∧
      (e.extract invoice).foundCount = 1 := by
  intro last adds
  obtain ⟨e, he, hvalues⟩ := Trail.exists_ok_of_map_toOption
    (show ((Template.ofAdditions adds).compile {}).toOption.map
      (fun e => (e.extract invoice).values) = some [("total", "12")] by decide +kernel)
  obtain ⟨⟨_, hnames, _⟩, htarget, _, _, _, hcount⟩ := extract_fieldwise he invoice
  obtain ⟨trail, htrail, hget⟩ := htarget "total" last (by decide)
  refine ⟨e, trail, he, htrail, hvalues, ?_, hget, ?_⟩
  · rw [hnames]
    decide
  · rw [hcount, hvalues]
    rfl

end Extractor

end LayoutTrail
