import LayoutTrail.Proofs.Json.ReadBack

/-!
# Reading what was printed

The tree of the text of a value is the tree of the value, in either layout and at any depth, if each
number in it is read back as it is printed.  The induction reads the characters of a value inside any
open containers and in front of any text that does not continue a number.
-/

namespace LayoutTrail.Json

open Text (Symbol)

namespace Tree.State

variable {st : State} {opened : List Open} {expected : Expected}

theorem readOn_newLine (layout : Layout) (level : Nat) (rest : List Symbol) :
    st.readOn ((layout.newLine level).map .char ++ rest) = st.readOn rest := by
  refine readOn_gaps (fun c hc => ?_) rest
  cases layout with
  | compact => exact absurd hc List.not_mem_nil
  | pretty =>
    rcases List.mem_cons.mp hc with rfl | hc
    · rfl
    · rw [(List.mem_replicate.mp hc).2]
      rfl

theorem readOn_colon (layout : Layout) (rest : List Symbol) :
    st.readOn (layout.colon.map .char ++ rest) = (st.step .colon).readOn rest := by
  cases layout with
  | compact => exact readOn_char rfl rfl
  | pretty => exact (readOn_char rfl rfl).trans (readOn_gap rfl rest)

theorem readOn_quotedChars (s : String) (rest : List Symbol) :
    st.readOn ((quotedChars s).map .char ++ rest) = (st.step (.string (.ok s))).readOn rest := by
  rw [quotedChars, List.map_cons, List.cons_append]
  exact readOn_char rfl (scanToken_quotedChars s rest)

theorem step_single (he : AtValue expected) {t : Token} {v : Tree} (hv : ofToken? t = some v) :
    (within opened expected).step t = after v opened := by
  rcases he with rfl | rfl <;> cases t <;> cases hv <;> rfl

theorem step_openArray (he : AtValue expected) :
    (within opened expected).step .openArray = within (.array [] :: opened) .firstValue := by
  rcases he with rfl | rfl <;> rfl

theorem step_openObject (he : AtValue expected) :
    (within opened expected).step .openObject = within (.object [] none :: opened) .firstName := by
  rcases he with rfl | rfl <;> rfl

theorem step_firstName (name : String) (members : List (Name × Tree)) (waiting : Option Name) :
    (within (.object members waiting :: opened) .firstName).step (.string (.ok name)) =
      within (.object members (some (.ok name)) :: opened) .colon := rfl

theorem step_name (name : String) (members : List (Name × Tree)) (waiting : Option Name) :
    (within (.object members waiting :: opened) .name).step (.string (.ok name)) =
      within (.object members (some (.ok name)) :: opened) .colon := rfl

theorem step_colon : (within opened .colon).step .colon = within opened .value := rfl

theorem step_comma_array (items : List Tree) :
    (within (.array items :: opened) .separator).step .comma =
      within (.array items :: opened) .value := rfl

theorem step_comma_object (members : List (Name × Tree)) (waiting : Option Name) :
    (within (.object members waiting :: opened) .separator).step .comma =
      within (.object members waiting :: opened) .name := rfl

end Tree.State

mutual

/-- The numbers of a value. -/
def Value.numbers : Value → List Number
  | .number n => [n]
  | .array items => itemNumbers items
  | .object members => memberNumbers members
  | _ => []

/-- The numbers of items. -/
def Value.itemNumbers : List Value → List Number
  | [] => []
  | v :: rest => v.numbers ++ itemNumbers rest

/-- The numbers of members. -/
def Value.memberNumbers : List (String × Value) → List Number
  | [] => []
  | (_, v) :: rest => v.numbers ++ memberNumbers rest

end

/-- A value whose numbers are all read back as they are printed. -/
def Value.Readable (v : Value) : Prop := ∀ n ∈ v.numbers, n.ReadsBack

namespace Value

open Json.Tree (Open Expected)
open Json.Tree.State

variable {layout : Layout} {level : Nat} {rest : List Symbol}

theorem readable_array_cons {v : Value} {items : List Value} :
    (array (v :: items)).Readable ↔ v.Readable ∧ (array items).Readable := by
  simp only [Readable, numbers, itemNumbers, List.forall_mem_append]

theorem readable_object_cons {name : String} {v : Value} {members : List (String × Value)} :
    (object ((name, v) :: members)).Readable ↔ v.Readable ∧ (object members).Readable := by
  simp only [Readable, numbers, memberNumbers, List.forall_mem_append]

theorem readable_null : null.Readable := fun _ h => absurd h List.not_mem_nil

theorem readable_string (s : String) : (string s).Readable := fun _ h => absurd h List.not_mem_nil

theorem readable_nat {n : Nat} (h : n < UInt64.size) : (nat n).Readable := by
  intro m hm
  obtain rfl := List.mem_singleton.mp hm
  exact Number.readsBack_natCast h

/-- A float that is not finite is printed as `null`. -/
theorem readable_float {x : Float} (h : x.isFinite → (Number.float x).ReadsBack) :
    (float x).Readable := by
  intro n hn
  rw [float] at hn
  split at hn
  next hx =>
    obtain rfl := List.mem_singleton.mp hn
    exact h hx
  next => exact absurd hn List.not_mem_nil

theorem readable_object_nil : (object []).Readable := fun _ h => absurd h List.not_mem_nil

theorem readable_array_map {α : Type} {encode : α → Value} (as : List α)
    (h : ∀ a ∈ as, (encode a).Readable) : (array (as.map encode)).Readable := by
  induction as with
  | nil => exact fun _ h => absurd h List.not_mem_nil
  | cons a as ih =>
    obtain ⟨ha, has⟩ := List.forall_mem_cons.mp h
    exact readable_array_cons.mpr ⟨ha, ih has⟩

theorem readable_object_map {α : Type} (encode : α → Value) (as : List (String × α))
    (h : ∀ a ∈ as, (encode a.2).Readable) :
    (object (as.map fun a => (a.1, encode a.2))).Readable := by
  induction as with
  | nil => exact readable_object_nil
  | cons a as ih =>
    obtain ⟨ha, has⟩ := List.forall_mem_cons.mp h
    exact readable_object_cons.mpr ⟨ha, ih has⟩

theorem delimited_newLine (hr : Delimited rest) :
    Delimited ((layout.newLine level).map .char ++ rest) := by
  cases layout with
  | compact => exact hr
  | pretty => exact delimited_char (by decide)

theorem delimited_renderItems (items : List Value) (hr : Delimited rest) :
    Delimited ((renderItems layout level items).map .char ++ rest) := by
  cases items with
  | nil => exact hr
  | cons v items => exact delimited_char (by decide)

theorem delimited_renderMembers (members : List (String × Value)) (hr : Delimited rest) :
    Delimited ((renderMembers layout level members).map .char ++ rest) := by
  cases members with
  | nil => exact hr
  | cons m members => exact delimited_char (by decide)

mutual

/-- Reading the characters of a value where one may come leads to the state after the value. -/
theorem readOn_render (layout : Layout) (level : Nat) (v : Value) (hv : v.Readable)
    (opened : List Open) (expected : Expected) (he : AtValue expected) (rest : List Symbol)
    (hr : Delimited rest) :
    (within opened expected).readOn ((v.render layout level).map .char ++ rest) =
      (after v.toTree opened).readOn rest := by
  match v with
  | .null => exact (readOn_char rfl rfl).trans (by rw [step_single he rfl]; rfl)
  | .bool true => exact (readOn_char rfl rfl).trans (by rw [step_single he rfl]; rfl)
  | .bool false => exact (readOn_char rfl rfl).trans (by rw [step_single he rfl]; rfl)
  | .number n =>
    rw [render, (hv n (List.mem_singleton.mpr rfl)).readOn he opened hr]
    rfl
  | .string s =>
    rw [render, readOn_quotedChars, step_single he rfl]
    rfl
  | .array [] =>
    refine (readOn_char (t := .openArray) rfl rfl).trans ?_
    rw [step_openArray he]
    exact readOn_char (t := .closeArray) rfl rfl
  | .array (v :: items) =>
    obtain ⟨hv, hitems⟩ := readable_array_cons.mp hv
    simp only [render, List.map_cons, List.map_append, List.map_nil, List.cons_append,
      List.append_assoc, List.nil_append]
    have hclose : Delimited ((layout.newLine level).map .char ++ .char ']' :: rest) :=
      delimited_newLine (delimited_char (by decide))
    rw [readOn_char (t := .openArray) rfl rfl, step_openArray he, readOn_newLine,
      readOn_render layout (level + 1) v hv _ _ (Or.inr rfl) _ (delimited_renderItems items hclose),
      after, Open.add, readOn_renderItems layout (level + 1) items hitems [v.toTree] opened _ hclose,
      readOn_newLine, readOn_char (t := .closeArray) rfl rfl]
    simp only [step, readSeparator, Open.close, List.reverse_append, List.reverse_reverse,
      List.reverse_singleton, List.singleton_append, toTree, itemTrees]
  | .object [] =>
    refine (readOn_char (t := .openObject) rfl rfl).trans ?_
    rw [step_openObject he]
    exact readOn_char (t := .closeObject) rfl rfl
  | .object ((name, v) :: members) =>
    obtain ⟨hv, hmembers⟩ := readable_object_cons.mp hv
    simp only [render, List.map_cons, List.map_append, List.map_nil, List.cons_append,
      List.append_assoc, List.nil_append]
    have hclose : Delimited ((layout.newLine level).map .char ++ .char '\x7d' :: rest) :=
      delimited_newLine (delimited_char (by decide))
    rw [readOn_char (t := .openObject) rfl rfl, step_openObject he, readOn_newLine,
      readOn_quotedChars, step_firstName, readOn_colon, step_colon,
      readOn_render layout (level + 1) v hv _ _ (Or.inl rfl) _
        (delimited_renderMembers members hclose),
      after, Open.add, readOn_renderMembers layout (level + 1) members hmembers
        [(.ok name, v.toTree)] opened _ hclose,
      readOn_newLine, readOn_char (t := .closeObject) rfl rfl]
    simp only [step, readSeparator, Open.close, List.reverse_append, List.reverse_reverse,
      List.reverse_singleton, List.singleton_append, toTree, memberTrees]

/-- Reading further items adds them to the array. -/
theorem readOn_renderItems (layout : Layout) (level : Nat) (items : List Value)
    (hv : (array items).Readable) (read : List Tree) (opened : List Open) (rest : List Symbol)
    (hr : Delimited rest) :
    (within (.array read :: opened) .separator).readOn
        ((renderItems layout level items).map .char ++ rest) =
      (within (.array ((itemTrees items).reverse ++ read) :: opened) .separator).readOn rest := by
  match items with
  | [] => rfl
  | v :: items =>
    obtain ⟨hv, hitems⟩ := readable_array_cons.mp hv
    simp only [renderItems, List.map_cons, List.map_append, List.cons_append, List.append_assoc]
    rw [readOn_char (t := .comma) rfl rfl, step_comma_array, readOn_newLine,
      readOn_render layout level v hv _ _ (Or.inl rfl) _ (delimited_renderItems items hr),
      after, Open.add, readOn_renderItems layout level items hitems _ opened _ hr]
    simp only [itemTrees, List.reverse_cons, List.append_assoc, List.singleton_append]

/-- Reading further members adds them to the object. -/
theorem readOn_renderMembers (layout : Layout) (level : Nat) (members : List (String × Value))
    (hv : (object members).Readable) (read : List (Name × Tree)) (opened : List Open)
    (rest : List Symbol) (hr : Delimited rest) :
    (within (.object read none :: opened) .separator).readOn
        ((renderMembers layout level members).map .char ++ rest) =
      (within (.object ((memberTrees members).reverse ++ read) none :: opened) .separator).readOn
        rest := by
  match members with
  | [] => rfl
  | (name, v) :: members =>
    obtain ⟨hv, hmembers⟩ := readable_object_cons.mp hv
    simp only [renderMembers, List.map_cons, List.map_append, List.cons_append, List.append_assoc]
    rw [readOn_char (t := .comma) rfl rfl, step_comma_object, readOn_newLine, readOn_quotedChars,
      step_name, readOn_colon, step_colon,
      readOn_render layout level v hv _ _ (Or.inl rfl) _ (delimited_renderMembers members hr),
      after, Open.add, readOn_renderMembers layout level members hmembers _ opened _ hr]
    simp only [memberTrees, List.reverse_cons, List.append_assoc, List.singleton_append]

end

/-- The tree of the text of a value is the tree of the value, and nothing follows it. -/
theorem ofText_toText (layout : Layout) {v : Value} (hv : v.Readable) :
    Tree.ofText (v.toText layout) = ⟨v.toTree, false⟩ := by
  have h := readOn_render layout 0 v hv [] .value (Or.inl rfl) [] delimited_nil
  rw [List.append_nil] at h
  rw [Tree.ofText, Tree.ofSymbols, Tree.ofTokens, Symbol.ofText, toText, String.toList_ofList]
  change (Tree.State.readOn _ _).reading = _
  rw [h, Tree.State.readOn_nil]
  rfl

end Value

/-! ## Objects of texts -/

open Json.Tree (Open)
open Json.Tree.State

variable {depth : Nat} {rest : List Symbol}

/-- The characters of the members after the first, whose values are given by their texts. -/
def memberChars (layout : Layout) : List (String × String) → List Char
  | [] => []
  | (name, text) :: rest =>
    ',' :: (layout.newLine 1 ++ (quotedChars name ++ (layout.colon ++
      (text.toList ++ memberChars layout rest))))

/-- The text of an object with the given names, whose values are given by their texts. -/
def objectText (layout : Layout) : List (String × String) → String
  | [] => String.ofList ['\x7b', '\x7d']
  | (name, text) :: rest =>
    String.ofList ('\x7b' :: (layout.newLine 1 ++ (quotedChars name ++ (layout.colon ++
      (text.toList ++ (memberChars layout rest ++ (layout.newLine 0 ++ ['\x7d'])))))))

/-- The trees of members whose values are given by their texts. -/
def textTrees (members : List (String × String)) : List (Name × Tree) :=
  members.map fun m => (.ok m.1, (Tree.ofText m.2).tree)

theorem delimited_memberChars (layout : Layout) (members : List (String × String))
    (hr : Delimited rest) : Delimited ((memberChars layout members).map .char ++ rest) := by
  cases members with
  | nil => exact hr
  | cons m members => exact delimited_char (by decide)

theorem readOn_memberChars (layout : Layout) {members : List (String × String)}
    (h : ∀ m ∈ members, HoldsValue depth m.2) (read : List (Name × Tree)) (opened : List Open)
    (hr : Delimited rest) :
    (within (.object read none :: opened) .separator).readOn
        ((memberChars layout members).map .char ++ rest) =
      (within (.object ((textTrees members).reverse ++ read) none :: opened) .separator).readOn
        rest := by
  induction members generalizing read with
  | nil => rfl
  | cons m members ih =>
    obtain ⟨hm, hmembers⟩ := List.forall_mem_cons.mp h
    simp only [memberChars, List.map_cons, List.map_append, List.cons_append, List.append_assoc]
    rw [readOn_char (t := .comma) rfl rfl, step_comma_object, readOn_newLine, readOn_quotedChars,
      step_name, readOn_colon, step_colon,
      hm.readOn (Or.inl rfl) _ (delimited_memberChars layout members hr)]
    refine (ih hmembers _).trans ?_
    simp only [textTrees, List.map_cons, List.reverse_cons, List.append_assoc, List.singleton_append]

/-- An object of texts that hold values is read as the object of those values. -/
theorem ofText_objectText (layout : Layout) {members : List (String × String)}
    (h : ∀ m ∈ members, HoldsValue depth m.2) :
    Tree.ofText (objectText layout members) = ⟨.object (textTrees members) none, false⟩ := by
  rw [Tree.ofText, Tree.ofSymbols, Tree.ofTokens, Symbol.ofText]
  change (Tree.State.readOn _ _).reading = _
  cases members with
  | nil =>
    rw [objectText, String.toList_ofList, List.map_cons, readOn_char (t := .openObject) rfl rfl,
      step_openObject (Or.inl rfl), List.map_cons, readOn_char (t := .closeObject) rfl rfl,
      List.map_nil, readOn_nil]
    rfl
  | cons m members =>
    obtain ⟨hm, hmembers⟩ := List.forall_mem_cons.mp h
    have hclose : Delimited ((layout.newLine 0).map .char ++ [.char '\x7d']) :=
      Value.delimited_newLine (delimited_char (by decide))
    rw [objectText, String.toList_ofList]
    simp only [List.map_cons, List.map_append, List.map_nil]
    rw [readOn_char (t := .openObject) rfl rfl, step_openObject (Or.inl rfl), readOn_newLine,
      readOn_quotedChars, step_firstName, readOn_colon, step_colon,
      hm.readOn (Or.inl rfl) _ (delimited_memberChars layout members hclose), after, Open.add,
      readOn_memberChars layout hmembers _ _ hclose, readOn_newLine,
      readOn_char (t := .closeObject) rfl rfl, readOn_nil]
    simp only [Tree.State.step, readSeparator, Open.close, List.reverse_append, List.reverse_reverse,
      List.reverse_singleton, List.singleton_append, after, reading, textTrees, List.map_cons]

/-! ## Arrays of one text -/

/-- A text that holds a value is read between brackets as the array of that value alone. -/
theorem ofText_bracketed {text : String} (h : HoldsValue depth text) :
    Tree.ofText ("[" ++ text ++ "]") = ⟨.array [(Tree.ofText text).tree] none, false⟩ := by
  have hchars : ("[" ++ text ++ "]").toList = '[' :: (text.toList ++ [']']) := by
    simp only [String.toList_append, String.reduceToList, List.cons_append, List.nil_append]
  have hclose : Delimited [.char ']'] := delimited_char (by decide)
  rw [Tree.ofText, Tree.ofSymbols, Tree.ofTokens, Symbol.ofText, hchars]
  change (Tree.State.readOn _ _).reading = _
  simp only [List.map_cons, List.map_append, List.map_nil]
  rw [readOn_char (t := .openArray) rfl rfl, step_openArray (Or.inl rfl),
    h.readOn (Or.inr rfl) _ hclose, after, Open.add, readOn_char (t := .closeArray) rfl rfl,
    readOn_nil]
  rfl

end LayoutTrail.Json
