import LayoutTrail.Command.Run
import LayoutTrail.Proofs.Extraction
import LayoutTrail.Proofs.Json.MemberOrder

/-!
# Reports on several documents

The report on one document has its fields in the order of the template.  In the report on several
documents all members of all objects stand in the order of their names, also the fields and what is
said about each of them.  No field is lost by that, but only a report in which nothing was found, on
fields that are in the order of their names, stays as it is.
-/

namespace LayoutTrail

namespace Json.Value

variable {members : List (String × Value)}

theorem member?_concat (members : List (String × Value)) (m : String × Value) (name : String) :
    (object (members ++ [m])).member? name =
      ((object members).member? name).or (if m.1 = name then some m.2 else none) := by
  rw [member?, member?, List.find?_append, Option.map_or]
  congr 1
  by_cases h : m.1 = name <;> simp [h]

/-- Putting members with different names in order leaves each of them where its name leads. -/
theorem member?_orderMembers (h : (members.map (·.1)).Nodup) (name : String) :
    (object (orderMembers members)).member? name = (object members).member? name := by
  induction members using List.reverseRecOn with
  | nil => rfl
  | append_singleton members m ih =>
    rw [List.map_append, List.nodup_append] at h
    obtain ⟨hinit, _, hne⟩ := h
    rw [orderMembers_concat, member?_insertMember, ih hinit, member?_concat]
    by_cases hm : m.1 = name
    · have hnone : (object members).member? name = none := by
        rw [member?, Option.map_eq_none_iff, List.find?_eq_none]
        intro m' hm' heq
        exact hne m'.1 (List.mem_map_of_mem hm') m.1 (by simp) ((of_decide_eq_true heq).trans hm.symm)
      rw [if_pos hm, if_pos hm, hnone, Option.none_or]
    · rw [if_neg hm, if_neg hm, Option.or_none]

end Json.Value

open Json (Value)

/-- What was found is not written in the order of the names. -/
theorem Target.ordered_toJson_eq_self_iff (t : Target) :
    t.toJson.ordered = t.toJson ↔ t = .notFound := by
  have hnames : ¬ ("value" : String) < "unitType" := by decide
  cases t with
  | notFound => exact iff_of_true rfl rfl
  | word m | phrase m =>
    refine iff_of_false (fun h => ?_) nofun
    rw [toJson, Value.ordered_object_eq_self_iff] at h
    exact hnames ((List.pairwise_cons.mp h.1).1 _ List.mem_cons_self)

namespace Extraction

theorem member?_ordered_toJson (e : Extraction) (name : String) :
    e.toJson.ordered.member? name = (e.get? name).map fun t => t.toJson.ordered := by
  rw [toJson, Value.ordered, Value.orderedMembers_eq_map, List.map_map,
    Value.member?_orderMembers (by rw [List.map_map]; exact e.fields.distinct), Value.member?,
    List.find?_map, Option.map_map, get?, FieldMap.get?, Option.map_map]
  rfl

/-- A report on one document is in order only if nothing was found and the fields are. -/
theorem ordered_toJson_eq_self_iff (e : Extraction) : e.toJson.ordered = e.toJson ↔
    e.fields.names.Pairwise (· < ·) ∧ ∀ f ∈ e.fields.entries, f.2 = .notFound := by
  rw [toJson, Value.ordered_object_eq_self_iff, Value.InOrder, List.pairwise_map, FieldMap.names,
    List.pairwise_map, List.forall_mem_map]
  simp only [Target.ordered_toJson_eq_self_iff]

end Extraction

namespace Command

variable {store : FileStore} {inputs : List String} {documents : List (String × Document)}

theorem exists_of_readAll_cons {path : String} (h : readAll store (path :: inputs) = .ok documents) :
    ∃ d rest, Document.ofFile store path = .ok d ∧ readAll store inputs = .ok rest ∧
      documents = (path, d) :: rest := by
  rw [readAll] at h
  obtain ⟨d, hd, h⟩ := Json.exists_of_bind_eq_ok h
  obtain ⟨rest, hrest, h⟩ := Json.exists_of_bind_eq_ok h
  exact ⟨d, rest, hd, hrest, (Except.ok.inj h).symm⟩

theorem readAll_singleton {path : String} {d : Document} (h : Document.ofFile store path = .ok d) :
    readAll store [path] = .ok [(path, d)] := by
  rw [readAll, h]
  rfl

/-- Documents that are read together are those that are read one by one. -/
theorem readAll_cases (h : readAll store inputs = .ok documents) :
    documents.map (·.1) = inputs ∧ ∀ r ∈ documents, readAll store [r.1] = .ok [r] := by
  induction inputs generalizing documents with
  | nil =>
    obtain rfl := Except.ok.inj h
    exact ⟨rfl, fun _ hr => absurd hr List.not_mem_nil⟩
  | cons path inputs ih =>
    obtain ⟨d, rest, hd, hrest, rfl⟩ := exists_of_readAll_cons h
    obtain ⟨hpaths, halone⟩ := ih hrest
    exact ⟨congrArg _ hpaths, List.forall_mem_cons.mpr ⟨readAll_singleton hd, halone⟩⟩

/-- What `extract` puts out once all that it reads has been read. -/
theorem extractText_eq {template : String} {ignoreCase text compact : Bool} {t : Template}
    {e : Extractor} (ht : Template.ofFile store template = .ok t)
    (he : t.compile { ignoreCase } = .ok e) (hd : readAll store inputs = .ok documents) :
    extractText store inputs template ignoreCase text compact =
      let results := documents.map fun r => (r.1, e.extract r.2)
      .ok (if text then extractionsText results
        else (extractionsJson results).toText (layoutOf compact)) := by
  simp only [extractText, ht, he, hd, bind, Except.bind]

theorem extractionsJson_of_length_ne_one {results : List (String × Extraction)}
    (h : results.length ≠ 1) : extractionsJson results = .array (results.map fun r =>
      .object [("document", .string r.1), ("fields", r.2.toJson.ordered)]) := by
  have hnames : ("document" : String) < "fields" := by decide
  have horder {path : String} {v : Value} :
      (Value.object [("document", .string path), ("fields", v)]).ordered =
        .object [("document", .string path), ("fields", v.ordered)] := by
    have hin : Value.InOrder [("document", .string path), ("fields", v.ordered)] :=
      List.pairwise_pair.mpr hnames
    rw [Value.ordered, Value.orderedMembers_eq_map, ← Value.orderMembers_of_inOrder hin]
    rfl
  match results with
  | [] => rfl
  | [_] => exact absurd rfl h
  | r :: r' :: rest => simp only [extractionsJson, horder]

/-- The report on a document alone has the fields in the order of the template.  The report on several
documents has for each of them what is reported on it alone, with the members of all its objects in
the order of their names: under the name of each field stands the same target, but the two are the
same only if the fields are in the order of their names and none was found. -/
theorem batch_report_ordered {template : String} {ignoreCase compact : Bool} {t : Template}
    {e : Extractor} (ht : Template.ofFile store template = .ok t)
    (he : t.compile { ignoreCase } = .ok e) (hd : readAll store inputs = .ok documents) :
    documents.map (·.1) = inputs ∧
    (∀ r ∈ documents, (e.extract r.2).fields.names = t.fields.names ∧
      extractText store [r.1] template ignoreCase false compact =
        .ok ((e.extract r.2).toJson.toText (layoutOf compact))) ∧
    (inputs.length ≠ 1 → extractText store inputs template ignoreCase false compact =
      .ok ((Value.array (documents.map fun r => .object [("document", .string r.1),
        ("fields", (e.extract r.2).toJson.ordered)])).toText (layoutOf compact))) ∧
    ∀ r ∈ documents,
      (∀ name, (e.extract r.2).toJson.ordered.member? name =
        ((e.extract r.2).get? name).map fun found => found.toJson.ordered) ∧
      ((e.extract r.2).toJson.ordered = (e.extract r.2).toJson ↔
        t.fields.names.Pairwise (· < ·) ∧
          ∀ f ∈ (e.extract r.2).fields.entries, f.2 = .notFound) := by
  obtain ⟨hpaths, halone⟩ := readAll_cases hd
  have hnames (d : Document) : (e.extract d).fields.names = t.fields.names := by
    rw [Extractor.names_extract]
    exact Template.names_compileEntries (Template.compileEntries_of_compile he)
  refine ⟨hpaths, fun r hr => ⟨hnames r.2, ?_⟩, fun hlen => ?_, fun r _ => ⟨?_, ?_⟩⟩
  · rw [extractText_eq ht he (halone r hr)]
    rfl
  · have hresults : (documents.map fun r => (r.1, e.extract r.2)).length ≠ 1 := by
      rwa [List.length_map, ← List.length_map (·.1), hpaths]
    rw [extractText_eq ht he hd]
    simp only [Bool.false_eq_true, if_false, extractionsJson_of_length_ne_one hresults,
      List.map_map, Function.comp_def]
  · exact (e.extract r.2).member?_ordered_toJson
  · rw [Extraction.ordered_toJson_eq_self_iff, hnames]

/-- Two blank documents and a template with two fields, not in the order of their names. -/
def blankForms : FileStore :=
  let steps : List StepSpec := [⟨1, .after, "x", .word⟩]
  let template := (Template.empty.addField "total" steps).addField "date" steps
  let bytes (v : Value) : List UInt8 := (v.toText .compact).toUTF8.toList
  { files := [(["form"], bytes template.toJson), (["one"], bytes (Document.mk []).toJson),
      (["two"], bytes (Document.mk []).toJson)] }

/-- The reports on both documents of `blankForms` are not those on each of them alone. -/
theorem batch_report_moves_fields :
    let blank := Target.notFound.toJson
    let alone : Value := .object [("total", blank), ("date", blank)]
    let moved : Value := .object [("date", blank), ("total", blank)]
    let both (fields : Value) : String := (Value.array [
      .object [("document", .string "one"), ("fields", fields)],
      .object [("document", .string "two"), ("fields", fields)]]).toText .compact
    (extractText blankForms ["one"] "form" false false true).toOption =
        some (alone.toText .compact) ∧
      (extractText blankForms ["two"] "form" false false true).toOption =
        some (alone.toText .compact) ∧
      (extractText blankForms ["one", "two"] "form" false false true).toOption =
        some (both moved) ∧
      both moved ≠ both alone := by
  decide +kernel

/-- On both documents of `blankForms` the report has the fields in the order of their names. -/
theorem batch_report_blankForms : ∃ t e documents,
    Template.ofFile blankForms "form" = .ok t ∧ t.compile { ignoreCase := false } = .ok e ∧
      readAll blankForms ["one", "two"] = .ok documents ∧ documents.map (·.1) = ["one", "two"] ∧
      extractText blankForms ["one", "two"] "form" false false true =
        .ok ((Value.array (documents.map fun r => .object [("document", .string r.1),
          ("fields", (e.extract r.2).toJson.ordered)])).toText .compact) := by
  obtain ⟨t, ht, hcompiles⟩ := Trail.exists_ok_of_map_toOption
    (show (Template.ofFile blankForms "form").toOption.map
      (fun t => (t.compile { ignoreCase := false }).toOption.map (fun _ => ())) = some (some ()) by
      decide +kernel)
  obtain ⟨e, he, _⟩ := Trail.exists_ok_of_map_toOption hcompiles
  obtain ⟨documents, hd, _⟩ := Trail.exists_ok_of_map_toOption
    (show (readAll blankForms ["one", "two"]).toOption.map (fun _ => ()) = some () by
      decide +kernel)
  obtain ⟨hpaths, _, htogether, _⟩ := batch_report_ordered ht he hd
  exact ⟨t, e, documents, ht, he, hd, hpaths, htogether (by decide)⟩

end Command

end LayoutTrail
