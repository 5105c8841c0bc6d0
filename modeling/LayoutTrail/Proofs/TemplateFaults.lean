import LayoutTrail.Proofs.Extraction

/-!
# The first fault of a template

A template can be used if the steps of every field can be.  Otherwise the first field in order whose
steps cannot be used is named, with what is wrong with these, and no later field is looked at.
-/

namespace LayoutTrail

variable {options : Options}

theorem Trail.fault?_eq_none_iff (options : Options) (specs : List StepSpec) :
    fault? options specs = none ↔ specs ≠ [] ∧ ∀ spec ∈ specs, spec.count ≠ 0 ∧
      ∃ pattern, Pattern.readAnchored options.ignoreCase spec.pattern = .ok pattern := by
  have hread (spec : StepSpec) :
      (¬ ∃ fault, Pattern.readAnchored options.ignoreCase spec.pattern = .error fault) ↔
        ∃ pattern, Pattern.readAnchored options.ignoreCase spec.pattern = .ok pattern := by
    cases Pattern.readAnchored options.ignoreCase spec.pattern <;> simp
  rw [← Option.not_isSome_iff_eq_none, isSome_fault?_iff]
  simp only [not_or, not_exists, not_and, ← hread, Ne]

namespace Template

variable {specs : List StepSpec}

/-- What is wrong with a field. -/
def fieldFault? (options : Options) (field : String × List StepSpec) : Option Error :=
  (Trail.fault? options field.2).map (.field field.1)

theorem fieldFault?_eq_none_iff {field : String × List StepSpec} :
    fieldFault? options field = none ↔ Trail.fault? options field.2 = none :=
  Option.map_eq_none_iff

/-- Fields are refused for the first fault among them. -/
theorem compileEntries_cases (options : Options) (entries : List (String × List StepSpec)) :
    (∃ e, compileEntries options entries = .error e ∧
      entries.findSome? (fieldFault? options) = some e) ∨
    ∃ trails, compileEntries options entries = .ok trails ∧
      entries.findSome? (fieldFault? options) = none := by
  induction entries with
  | nil => exact Or.inr ⟨[], rfl, rfl⟩
  | cons field entries ih =>
    rw [compileEntries, List.findSome?_cons, fieldFault?]
    rcases Trail.ofSpecs_cases options field.2 with ⟨e, he, hf⟩ | ⟨trail, htrail, _, hf⟩
    · rw [he, hf]
      exact Or.inl ⟨_, rfl, rfl⟩
    · rw [htrail, hf]
      rcases ih with ⟨e, he, hfs⟩ | ⟨trails, htrails, hfs⟩
      · rw [he]
        exact Or.inl ⟨e, rfl, hfs⟩
      · rw [htrails]
        exact Or.inr ⟨_, rfl, hfs⟩

theorem compile_of_error {t : Template} {e : Error}
    (h : compileEntries options t.fields.entries = .error e) : t.compile options = .error e := by
  unfold compile
  split
  next e' he => rw [Except.error.inj (h.symm.trans he)]
  next trails htrails => cases h.symm.trans htrails

theorem exists_compile_of_ok {t : Template} {trails : List (String × Trail)}
    (h : compileEntries options t.fields.entries = .ok trails) : ∃ x, t.compile options = .ok x := by
  unfold compile
  split
  next e he => cases h.symm.trans he
  next => exact ⟨_, rfl⟩

theorem compile_cases (t : Template) (options : Options) :
    (∃ e, t.compile options = .error e ∧
      t.fields.entries.findSome? (fieldFault? options) = some e) ∨
    ∃ x, t.compile options = .ok x ∧ t.fields.entries.findSome? (fieldFault? options) = none := by
  rcases compileEntries_cases options t.fields.entries with ⟨e, he, hf⟩ | ⟨trails, htrails, hf⟩
  · exact Or.inl ⟨e, compile_of_error he, hf⟩
  · obtain ⟨x, hx⟩ := exists_compile_of_ok htrails
    exact Or.inr ⟨x, hx, hf⟩

theorem compile_eq_error_iff {t : Template} {e : Error} : t.compile options = .error e ↔
    t.fields.entries.findSome? (fieldFault? options) = some e := by
  rcases t.compile_cases options with ⟨e', he, hf⟩ | ⟨x, hx, hf⟩
  · rw [he, hf, Option.some.injEq]
    exact ⟨Except.error.inj, congrArg Except.error⟩
  · rw [hx, hf]
    exact iff_of_false nofun nofun

theorem exists_compile_iff {t : Template} : (∃ x, t.compile options = .ok x) ↔
    ∀ field ∈ t.fields.entries, Trail.fault? options field.2 = none := by
  rw [← forall₂_congr fun field _ => fieldFault?_eq_none_iff, ← List.findSome?_eq_none_iff]
  rcases t.compile_cases options with ⟨e, he, hf⟩ | ⟨x, hx, hf⟩
  · rw [he, hf]
    exact iff_of_false nofun nofun
  · exact iff_of_true ⟨x, hx⟩ hf

theorem compile_eq_field_iff {t : Template} {e : Error} : t.compile options = .error e ↔
    ∃ before name specs after inner, t.fields.entries = before ++ (name, specs) :: after ∧
      (∀ field ∈ before, Trail.fault? options field.2 = none) ∧
      Trail.fault? options specs = some inner ∧ e = .field name inner := by
  rw [compile_eq_error_iff, List.findSome?_eq_some_iff]
  constructor
  · rintro ⟨before, ⟨name, specs⟩, after, hentries, hfault, hbefore⟩
    obtain ⟨inner, hinner, he⟩ := Option.map_eq_some_iff.mp hfault
    exact ⟨before, name, specs, after, inner, hentries,
      fun field hfield => fieldFault?_eq_none_iff.mp (hbefore field hfield), hinner, he.symm⟩
  · rintro ⟨before, name, specs, after, inner, hentries, hbefore, hinner, rfl⟩
    exact ⟨before, (name, specs), after, hentries, Option.map_eq_some_iff.mpr ⟨inner, hinner, rfl⟩,
      fun field hfield => fieldFault?_eq_none_iff.mpr (hbefore field hfield)⟩

/-- Up to a field that cannot be used there is a first fault, which is the one reported. -/
theorem exists_fault_upTo (before : List (String × List StepSpec)) (name : String)
    (h : Trail.fault? options specs ≠ none) : ∃ e, ∀ (t : Template) after,
      t.fields.entries = before ++ (name, specs) :: after → t.compile options = .error e := by
  have hsome : (before ++ [(name, specs)]).findSome? (fieldFault? options) ≠ none := by
    intro hnone
    have hfield := List.findSome?_eq_none_iff.mp hnone (name, specs) (by simp)
    exact h (fieldFault?_eq_none_iff.mp hfield)
  obtain ⟨e, he⟩ := Option.ne_none_iff_exists'.mp hsome
  refine ⟨e, fun t after hentries => compile_eq_error_iff.mpr ?_⟩
  rw [hentries, List.append_cons, List.findSome?_append, he]
  rfl

/-- A template can be used if and only if every field has steps, none of which counts to zero or has a
pattern that cannot be read.  Otherwise the error names the first field that is not so, in the order of
the first additions, and holds what is wrong with the steps added last under this name: that there are
none, or the first fault in their order, a count of zero before the pattern.  What stands behind this
field changes nothing. -/
theorem compile_first_fault (t : Template) (options : Options) :
    ((∃ x, t.compile options = .ok x) ↔ ∀ field ∈ t.fields.entries,
      field.2 ≠ [] ∧ ∀ spec ∈ field.2, spec.count ≠ 0 ∧
        ∃ pattern, Pattern.readAnchored options.ignoreCase spec.pattern = .ok pattern) ∧
    (∀ e, t.compile options = .error e ↔ ∃ before name specs after inner,
      t.fields.entries = before ++ (name, specs) :: after ∧
        (∀ field ∈ before, Trail.fault? options field.2 = none) ∧
        Trail.fault? options specs = some inner ∧ e = .field name inner) ∧
    (∀ before name specs after, t.fields.entries = before ++ (name, specs) :: after →
      Trail.fault? options specs ≠ none → ∀ (t' : Template) after',
        t'.fields.entries = before ++ (name, specs) :: after' →
          t'.compile options = t.compile options) ∧
    ∀ adds, t = ofAdditions adds → t.fields.names = (adds.map (·.1)).eraseDups ∧
      ∀ name, t.fields.get? name = adds.reverse.lookup name := by
  refine ⟨?_, fun e => compile_eq_field_iff, ?_, ?_⟩
  · rw [exists_compile_iff]
    exact forall₂_congr fun field _ => Trail.fault?_eq_none_iff options field.2
  · intro before name specs after hentries hfault t' after' hentries'
    obtain ⟨e, he⟩ := exists_fault_upTo before name hfault
    rw [he t after hentries, he t' after' hentries']
  · rintro adds rfl
    rw [fields_ofAdditions]
    exact ⟨FieldMap.names_ofList adds, FieldMap.get?_ofList adds⟩

/-- The pattern of the second field cannot be read, but the error is that of the first one, whose steps
were replaced by one that counts to zero. -/
theorem compile_first_fault_replaced :
    let adds : List (String × List StepSpec) := [("total", [⟨1, .after, "Total", .word⟩]),
      ("date", [⟨1, .after, "(", .word⟩]), ("total", [⟨0, .below, "(", .word⟩])]
    let t := ofAdditions adds
    t.compile {} = .error (.field "total" .zeroCount) ∧ t.fields.names = ["total", "date"] ∧
      (ofAdditions (adds ++ [("date", [])])).compile {} = t.compile {} := by
  intro adds t
  obtain ⟨_, herror, hlater, hadditions⟩ := compile_first_fault t {}
  have hentries : t.fields.entries = [] ++ ("total", [⟨0, .below, "(", .word⟩]) ::
      [("date", [⟨1, .after, "(", .word⟩])] := by decide +kernel
  have hfault : Trail.fault? {} [⟨0, .below, "(", .word⟩] = some .zeroCount := rfl
  refine ⟨(herror _).mpr ⟨_, _, _, _, _, hentries, by simp, hfault, rfl⟩, ?_, ?_⟩
  · rw [(hadditions adds rfl).1]
    decide
  · exact hlater _ _ _ _ hentries (by simp [hfault]) _ [("date", [])] (by decide +kernel)

end Template

end LayoutTrail
