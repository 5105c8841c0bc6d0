import LayoutTrail.Proofs.BatchReports

/-!
# Extraction is all or nothing

`extract` reads its template, then its documents one after the other, and puts out what it has found
only after the last of them.  So a fault anywhere, of the template or of any document, leaves nothing
behind: nothing is printed, no file is touched, and what was extracted before the fault is lost.  What
is written to a file is what is printed without one.
-/

namespace LayoutTrail

namespace FileStore

variable {store store' : FileStore} {path p q : Path} {bytes : List UInt8} {text content : String}

/-- The store with a file at a path, in place of what was there. -/
def put (store : FileStore) (path : Path) (bytes : List UInt8) : FileStore :=
  { store with files := (path, bytes) :: store.files.filter (·.1 ≠ path) }

/-- A file at a path takes away no directory. -/
theorem isDirectory_put_of_isDirectory (h : store.isDirectory q = true) :
    (store.put path bytes).isDirectory q = true := by
  simp only [isDirectory, put, Bool.or_eq_true, List.any_cons] at h ⊢
  rcases h with h | h
  · exact Or.inl h
  · obtain ⟨f, hf, hlonger⟩ := List.any_eq_true.mp h
    by_cases heq : f.1 = path
    · rw [heq] at hlonger
      exact Or.inr (Or.inl hlonger)
    · have hkept : f ∈ store.files.filter (·.1 ≠ path) := by simp [hf, heq]
      exact Or.inr (Or.inr (List.any_eq_true.mpr ⟨f, hkept, hlonger⟩))

theorem isDirectory_put_self (h : store.isDirectory path = false) :
    (store.put path bytes).isDirectory path = false := by
  simp only [isDirectory, put, Bool.or_eq_false_iff, List.any_cons, Nat.lt_irrefl, decide_false,
    Bool.and_false, true_and] at h ⊢
  refine ⟨h.1, List.any_eq_false.mpr fun f hf => ?_⟩
  exact List.any_eq_false.mp h.2 f (List.mem_filter.mp hf).1

theorem bytes?_put_self (store : FileStore) (path : Path) (bytes : List UInt8) :
    (store.put path bytes).bytes? path = some bytes := by
  simp [bytes?, put]

/-- Where directories stay directories, a path leads where it led before. -/
theorem walk_of_isDirectory (hdir : ∀ q, store.isDirectory q = true → store'.isDirectory q = true)
    {parts : List String} (h : store.walk p parts = .ok q) : store'.walk p parts = .ok q := by
  induction parts generalizing p with
  | nil => exact h
  | cons part parts ih =>
    rw [walk] at h ⊢
    split at h
    next hp =>
      rw [if_pos (hdir p hp)]
      exact ih h
    next => cases h

/-- Writing puts the file at the place that the text leads to, which is no directory. -/
theorem exists_of_write (h : store.write text content = .ok store') : ∃ path,
    store.locate text = .ok path ∧ store.isDirectory path = false ∧
      store' = store.put path content.toUTF8.toList := by
  unfold write at h
  by_cases hslash : text.toList.getLast? = some '/'
  · simp only [hslash, if_true] at h
    obtain ⟨path, _, h⟩ := Json.exists_of_bind_eq_ok h
    cases h
  · simp only [hslash, if_false, decide_false, Bool.false_or] at h
    obtain ⟨path, hpath, h⟩ := Json.exists_of_bind_eq_ok h
    split at h
    next => cases h
    next hdir => exact ⟨path, hpath, Bool.not_eq_true _ ▸ hdir, (Except.ok.inj h).symm⟩

/-- What was written to a file is found in it. -/
theorem find_of_write (h : store.write text content = .ok store') :
    store'.find text = .ok (.file content.toUTF8.toList) := by
  obtain ⟨path, hpath, hdir, rfl⟩ := exists_of_write h
  have hlocate : (store.put path content.toUTF8.toList).locate text = .ok path := by
    unfold locate at hpath ⊢
    split at hpath
    next => cases hpath
    next hne =>
      rw [if_neg hne]
      exact walk_of_isDirectory (fun _ => isDirectory_put_of_isDirectory) hpath
  rw [find, hlocate]
  simp only [bind, Except.bind, isDirectory_put_self hdir, bytes?_put_self]
  rfl

end FileStore

namespace Command

variable {store : FileStore} {inputs : List String} {template : String}
  {ignoreCase text compact : Bool} {e : Error}

/-! ## One document after the other -/

/-- Reads documents in order and extracts from each as soon as it is read; `done` is what was
extracted before. -/
def extractInTurn (store : FileStore) (x : Extractor) (done : List (String × Extraction)) :
    List String → Except Error (List (String × Extraction))
  | [] => .ok done
  | path :: rest => do
    let d ← Document.ofFile store path
    extractInTurn store x (done ++ [(path, x.extract d)]) rest

/-- Reading all documents first makes no difference, since nothing that is extracted is seen before
all of them have been read. -/
theorem extractInTurn_eq (store : FileStore) (x : Extractor) (done : List (String × Extraction))
    (inputs : List String) : extractInTurn store x done inputs =
      (readAll store inputs).map fun ds => done ++ ds.map fun r => (r.1, x.extract r.2) := by
  induction inputs generalizing done with
  | nil => simp [extractInTurn, readAll, Except.map]
  | cons path inputs ih =>
    rw [extractInTurn, readAll]
    cases Document.ofFile store path with
    | error e => rfl
    | ok d =>
      simp only [bind, Except.bind, ih]
      cases readAll store inputs with
      | error e => rfl
      | ok ds => simp [Except.map]

/-- The first of some inputs that cannot be read, as a document, is one at which `e` is met. -/
def FirstUnread (store : FileStore) (inputs : List String) (e : Error) : Prop :=
  ∃ before path after, inputs = before ++ path :: after ∧
    (∀ p ∈ before, ∃ d, Document.ofFile store p = .ok d) ∧ Document.ofFile store path = .error e

theorem firstUnread_cons_iff {path : String} : FirstUnread store (path :: inputs) e ↔
    Document.ofFile store path = .error e ∨
      (∃ d, Document.ofFile store path = .ok d) ∧ FirstUnread store inputs e := by
  constructor
  · rintro ⟨before, path', after, hsplit, hbefore, he⟩
    cases before with
    | nil =>
      obtain ⟨rfl, _⟩ := List.cons.inj hsplit
      exact Or.inl he
    | cons p before =>
      obtain ⟨rfl, rfl⟩ := List.cons.inj hsplit
      obtain ⟨hd, hbefore⟩ := List.forall_mem_cons.mp hbefore
      exact Or.inr ⟨hd, before, path', after, rfl, hbefore, he⟩
  · rintro (he | ⟨hd, before, path', after, rfl, hbefore, he⟩)
    · exact ⟨[], path, inputs, rfl, fun _ hp => absurd hp List.not_mem_nil, he⟩
    · exact ⟨path :: before, path', after, rfl, List.forall_mem_cons.mpr ⟨hd, hbefore⟩, he⟩

theorem exists_firstUnread_iff : (∃ e, FirstUnread store inputs e) ↔
    ∃ path ∈ inputs, ∀ d, Document.ofFile store path ≠ .ok d := by
  induction inputs with
  | nil =>
    refine iff_of_false ?_ (by simp)
    rintro ⟨e, before, path, after, hsplit, _⟩
    cases before <;> cases hsplit
  | cons path inputs ih =>
    simp only [firstUnread_cons_iff, List.mem_cons, exists_eq_or_imp, ← ih]
    cases Document.ofFile store path with
    | error e => exact iff_of_true ⟨e, Or.inl rfl⟩ (Or.inl nofun)
    | ok d => simp

/-- Of documents that cannot all be read the first fault is reported. -/
theorem readAll_eq_error_iff : readAll store inputs = .error e ↔ FirstUnread store inputs e := by
  induction inputs with
  | nil =>
    refine iff_of_false nofun ?_
    rintro ⟨before, path, after, hsplit, _⟩
    cases before <;> cases hsplit
  | cons path inputs ih =>
    rw [readAll, firstUnread_cons_iff, ← ih]
    cases Document.ofFile store path with
    | error e' => simp [bind, Except.bind]
    | ok d =>
      simp only [bind, Except.bind]
      cases readAll store inputs <;> simp

/-! ## Faults -/

/-- What keeps `extract` from its work: a template that cannot be read or used or, under one that can,
the first input that cannot be read. -/
inductive ExtractFault (store : FileStore) (inputs : List String) (template : String)
    (ignoreCase : Bool) : Error → Prop
  | unread {e : Error} : Template.ofFile store template = .error e →
      ExtractFault store inputs template ignoreCase e
  | unusable {t : Template} {e : Error} : Template.ofFile store template = .ok t →
      t.compile { ignoreCase } = .error e → ExtractFault store inputs template ignoreCase e
  | input {t : Template} {x : Extractor} {e : Error} : Template.ofFile store template = .ok t →
      t.compile { ignoreCase } = .ok x → FirstUnread store inputs e →
      ExtractFault store inputs template ignoreCase e

theorem extractText_of_extractFault (h : ExtractFault store inputs template ignoreCase e)
    (text compact : Bool) :
    extractText store inputs template ignoreCase text compact = .error e := by
  cases h with
  | unread ht => simp only [extractText, ht, bind, Except.bind]
  | unusable ht hx => simp only [extractText, ht, hx, bind, Except.bind]
  | input ht hx hunread =>
    have hd := readAll_eq_error_iff.mpr hunread
    simp only [extractText, ht, hx, hd, bind, Except.bind]

/-- Either there is a fault, or the template can be used and all documents are read. -/
theorem exists_extractFault_or (store : FileStore) (inputs : List String) (template : String)
    (ignoreCase : Bool) : (∃ e, ExtractFault store inputs template ignoreCase e) ∨
      ∃ t x documents, Template.ofFile store template = .ok t ∧
        t.compile { ignoreCase } = .ok x ∧ readAll store inputs = .ok documents := by
  cases ht : Template.ofFile store template with
  | error e => exact Or.inl ⟨e, .unread ht⟩
  | ok t =>
    cases hx : t.compile { ignoreCase } with
    | error e => exact Or.inl ⟨e, .unusable ht hx⟩
    | ok x =>
      cases hd : readAll store inputs with
      | error e => exact Or.inl ⟨e, .input ht hx (readAll_eq_error_iff.mp hd)⟩
      | ok documents => exact Or.inr ⟨t, x, documents, rfl, hx, rfl⟩

/-- There is a fault if the template is of no use or some input cannot be read. -/
theorem exists_extractFault_iff : (∃ e, ExtractFault store inputs template ignoreCase e) ↔
    (∀ t x, Template.ofFile store template = .ok t → t.compile { ignoreCase } ≠ .ok x) ∨
      ∃ path ∈ inputs, ∀ d, Document.ofFile store path ≠ .ok d := by
  constructor
  · rintro ⟨e, h⟩
    cases h with
    | unread ht =>
      refine Or.inl fun t x ht' => ?_
      rw [ht] at ht'
      cases ht'
    | unusable ht hx =>
      refine Or.inl fun t' x ht' hx' => ?_
      obtain rfl := Except.ok.inj (ht.symm.trans ht')
      rw [hx] at hx'
      cases hx'
    | input ht hx hunread => exact Or.inr (exists_firstUnread_iff.mp ⟨e, hunread⟩)
  · intro h
    rcases exists_extractFault_or store inputs template ignoreCase with
      hfault | ⟨t, x, documents, ht, hx, hd⟩
    · exact hfault
    · rcases h with huseless | hinput
      · exact absurd hx (huseless t x ht)
      · obtain ⟨e, hunread⟩ := exists_firstUnread_iff.mpr hinput
        rw [readAll_eq_error_iff.mpr hunread] at hd
        cases hd

/-- What `extract` makes of its extractions. -/
def rendering (text compact : Bool) (results : List (String × Extraction)) : String :=
  if text then extractionsText results else (extractionsJson results).toText (layoutOf compact)

/-! ## What is left behind -/

theorem run_extract_of_error (output : Option String)
    (h : extractText store inputs template ignoreCase text compact = .error e) :
    (extract inputs template output ignoreCase text compact).run store = failure e.message := by
  simp only [run, runExtract, h]

theorem run_extract_of_extractFault (h : ExtractFault store inputs template ignoreCase e)
    (output : Option String) :
    (extract inputs template output ignoreCase text compact).run store = failure e.message :=
  run_extract_of_error output (extractText_of_extractFault h text compact)

theorem run_extract_of_ok {rendered : String}
    (h : extractText store inputs template ignoreCase text compact = .ok rendered) :
    (extract inputs template none ignoreCase text compact).run store = printing rendered := by
  simp only [run, runExtract, h]

/-- What is put out is written if it can be, and then the files are those with it. -/
theorem run_extract_to {rendered : String} (path : String)
    (h : extractText store inputs template ignoreCase text compact = .ok rendered) :
    let outcome := (extract inputs template (some path) ignoreCase text compact).run store
    outcome.exit = 0 ∧ store.write path rendered = .ok (outcome.storeAfter store) ∨
      outcome.exit = 1 ∧ ∃ fault, store.write path rendered = .error fault := by
  intro outcome
  cases hwrite : store.write path rendered with
  | error fault =>
    have hfailure : outcome = failure fault.message := by
      simp only [outcome, run, runExtract, h, hwrite]
    rw [hfailure]
    exact Or.inr ⟨rfl, fault, rfl⟩
  | ok store' =>
    have hsaved : outcome =
        { stdout := "Saved to " ++ path ++ "\n", written := some (path, rendered) } := by
      simp only [outcome, run, runExtract, h, hwrite]
    have hafter : outcome.storeAfter store = store' := by
      simp only [hsaved, Outcome.storeAfter, hwrite]
    rw [hafter]
    exact Or.inl ⟨by rw [hsaved], rfl⟩

/-- Without a fault there are extractions from all documents, in the order of the inputs. -/
theorem exists_results (h : ¬ ∃ e, ExtractFault store inputs template ignoreCase e)
    (text compact : Bool) : ∃ t x results, Template.ofFile store template = .ok t ∧
      t.compile { ignoreCase } = .ok x ∧ extractInTurn store x [] inputs = .ok results ∧
      results.map (·.1) = inputs ∧
      extractText store inputs template ignoreCase text compact =
        .ok (rendering text compact results) := by
  obtain ⟨t, x, documents, ht, hx, hd⟩ :=
    (exists_extractFault_or store inputs template ignoreCase).resolve_left h
  let results := documents.map fun r => (r.1, x.extract r.2)
  have hresults : extractInTurn store x [] inputs = .ok results := by
    rw [extractInTurn_eq, hd]
    rfl
  have hpaths : results.map (·.1) = inputs := by
    rw [← (readAll_cases hd).1]
    simp only [results, List.map_map, Function.comp_def]
  exact ⟨t, x, results, ht, hx, hresults, hpaths, extractText_eq ht hx hd⟩

/-- What was written with success is what is printed without an output. -/
theorem find_of_run_extract_to {path : String}
    (h : ((extract inputs template (some path) ignoreCase text compact).run store).exit = 0) :
    ∃ printed,
      (extract inputs template none ignoreCase text compact).run store = printing printed ∧
      (((extract inputs template (some path) ignoreCase text compact).run store).storeAfter
        store).find path = .ok (.file printed.toUTF8.toList) := by
  cases htext : extractText store inputs template ignoreCase text compact with
  | error e =>
    rw [run_extract_of_error (some path) htext] at h
    cases h
  | ok printed =>
    rcases run_extract_to path htext with ⟨_, hafter⟩ | ⟨hfailed, _⟩
    · exact ⟨printed, run_extract_of_ok htext, FileStore.find_of_write hafter⟩
    · exact absurd (h.symm.trans hfailed) Nat.zero_ne_one

/-- If the template cannot be read or used, or any of the documents cannot be read, `extract` reports
the fault of the template or else that of the first such document, prints nothing and leaves all files
as they were, wherever it was to write.  Otherwise it prints what it has extracted from the documents in
turn, or writes just that to its file. -/
theorem extract_all_or_nothing (store : FileStore) (inputs : List String) (template : String)
    (ignoreCase text compact : Bool) :
    let outcome (output : Option String) : Outcome :=
      (extract inputs template output ignoreCase text compact).run store
    ((∃ e, ExtractFault store inputs template ignoreCase e) ↔
      (∀ t x, Template.ofFile store template = .ok t → t.compile { ignoreCase } ≠ .ok x) ∨
        ∃ path ∈ inputs, ∀ d, Document.ofFile store path ≠ .ok d) ∧
    (∀ e, ExtractFault store inputs template ignoreCase e → ∀ output,
      (outcome output).exit = 1 ∧ (outcome output).stdout = "" ∧
      (outcome output).stderr = "Error: " ++ e.message ++ "\n" ∧
      (outcome output).storeAfter store = store) ∧
    ((¬ ∃ e, ExtractFault store inputs template ignoreCase e) → ∃ t x results,
      Template.ofFile store template = .ok t ∧ t.compile { ignoreCase } = .ok x ∧
      extractInTurn store x [] inputs = .ok results ∧ results.map (·.1) = inputs ∧
      (outcome none).exit = 0 ∧ (outcome none).stdout = rendering text compact results ++ "\n" ∧
      ∀ path store', store.write path (rendering text compact results) = .ok store' →
        (outcome (some path)).exit = 0 ∧ (outcome (some path)).storeAfter store = store') ∧
    ∀ path, (outcome (some path)).exit = 0 → ∃ printed,
      (outcome none).exit = 0 ∧ (outcome none).stdout = printed ++ "\n" ∧
      ((outcome (some path)).storeAfter store).find path = .ok (.file printed.toUTF8.toList) := by
  intro outcome
  refine ⟨exists_extractFault_iff, fun e h output => ?_, fun h => ?_, fun path hexit => ?_⟩
  · have hfailure : outcome output = failure e.message := run_extract_of_extractFault h output
    rw [hfailure]
    exact ⟨rfl, rfl, rfl, rfl⟩
  · obtain ⟨t, x, results, ht, hx, hresults, hpaths, htext⟩ := exists_results h text compact
    have hprinted : outcome none = printing (rendering text compact results) :=
      run_extract_of_ok htext
    refine ⟨t, x, results, ht, hx, hresults, hpaths, ?_⟩
    rw [hprinted]
    refine ⟨rfl, rfl, fun path store' hwrite => ?_⟩
    rcases run_extract_to path htext with ⟨hexit, hafter⟩ | ⟨_, fault, hfault⟩
    · exact ⟨hexit, Except.ok.inj (hafter.symm.trans hwrite)⟩
    · rw [hfault] at hwrite
      cases hwrite
  · obtain ⟨printed, hrun, hfile⟩ := find_of_run_extract_to hexit
    have hprinted : outcome none = printing printed := hrun
    refine ⟨printed, ?_⟩
    rw [hprinted]
    exact ⟨rfl, rfl, hfile⟩

/-- A template with one field, and a document without pages. -/
def oneForm : FileStore :=
  let template := Template.empty.addField "no" [⟨1, .after, "x", .word⟩]
  let bytes (v : Json.Value) : List UInt8 := (v.toText .compact).toUTF8.toList
  { files := [(["form"], bytes template.toJson), (["one"], bytes (Document.mk []).toJson)] }

/-- The second of three documents is not there, so the first, which was to be written over, stays as it
was.  Without the second the report is written over the first, and it is what is printed otherwise. -/
theorem extract_all_or_nothing_oneForm :
    let outcome (inputs : List String) (output : Option String) : Outcome :=
      (extract inputs "form" output false false true).run oneForm
    let failed := outcome ["one", "gone", "one"] (some "one")
    let saved := outcome ["one", "one"] (some "one")
    failed.exit = 1 ∧ failed.stdout = "" ∧
      failed.stderr = "Error: I/O error: No such file or directory (os error 2)\n" ∧
      failed.storeAfter oneForm = oneForm ∧
      saved.exit = 0 ∧ ∃ printed, (outcome ["one", "one"] none).stdout = printed ++ "\n" ∧
        (saved.storeAfter oneForm).find "one" = .ok (.file printed.toUTF8.toList) := by
  intro outcome failed saved
  obtain ⟨t, ht, hcompiles⟩ := Trail.exists_ok_of_map_toOption
    (show (Template.ofFile oneForm "form").toOption.map
      (fun t => (t.compile { ignoreCase := false }).toOption.map (fun _ => ())) = some (some ()) by
      decide +kernel)
  obtain ⟨x, hx, _⟩ := Trail.exists_ok_of_map_toOption hcompiles
  obtain ⟨d, hd, _⟩ := Trail.exists_ok_of_map_toOption
    (show (Document.ofFile oneForm "one").toOption.map (fun _ => ()) = some () by decide +kernel)
  have hgone : Document.ofFile oneForm "gone" = .error (.file .missing) := rfl
  have hunread : FirstUnread oneForm ["one", "gone", "one"] (.file .missing) :=
    ⟨["one"], "gone", ["one"], rfl, List.forall_mem_singleton.mpr ⟨d, hd⟩, hgone⟩
  obtain ⟨_, hfault, _⟩ :=
    extract_all_or_nothing oneForm ["one", "gone", "one"] "form" false false true
  obtain ⟨hexit, hstdout, hstderr, hafter⟩ := hfault _ (.input ht hx hunread) (some "one")
  obtain ⟨hiff, _, hworks, hwritten⟩ :=
    extract_all_or_nothing oneForm ["one", "one"] "form" false false true
  have hnone : ¬ ∃ e, ExtractFault oneForm ["one", "one"] "form" false e := by
    rw [hiff]
    rintro (huseless | ⟨path, hpath, hunread⟩)
    · exact huseless t x ht hx
    · obtain rfl : path = "one" := by simpa using hpath
      exact hunread d hd
  obtain ⟨_, _, _, _, _, _, _, _, _, hwrites⟩ := hworks hnone
  have hsaved : saved.exit = 0 := (hwrites "one" _ rfl).1
  obtain ⟨printed, _, hprinted, hfile⟩ := hwritten "one" hsaved
  exact ⟨hexit, hstdout, hstderr, hafter, hsaved, printed, hprinted, hfile⟩

end Command

end LayoutTrail
