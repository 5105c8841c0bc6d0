import LayoutTrail.Proofs.Json.Numbers
import LayoutTrail.Proofs.Json.Strings

/-!
# Texts in their place

A text that is a value by itself is read as that value inside any other text, as long as nothing
follows that would continue a number.  The tokens of such a text do not break, and reading them never
touches the containers that were open before.
-/

namespace LayoutTrail.Json

open Text (Symbol)

section Outcomes

variable {ε α β : Type} {x : Except ε α}

theorem exists_of_bind_eq_ok {f : α → Except ε β} {b : β} (h : (x >>= f) = .ok b) :
    ∃ a, x = .ok a ∧ f a = .ok b := by
  cases x with
  | error e => cases h
  | ok a => exact ⟨a, rfl, h⟩

theorem exists_of_map_eq_ok {f : α → β} {b : β} (h : x.map f = .ok b) :
    ∃ a, x = .ok a ∧ f a = b := by
  cases x with
  | error e => cases h
  | ok a => exact ⟨a, rfl, Except.ok.inj h⟩

theorem eq_ok_of_mapError_eq_ok {ε' : Type} {f : ε → ε'} {a : α} (h : x.mapError f = .ok a) :
    x = .ok a := by
  cases x with
  | error e => cases h
  | ok a' => exact congrArg Except.ok (Except.ok.inj h)

end Outcomes

/-! ## Tokens -/

theorem scanString_escaped (st : StringState) {e c : Char} (h : escapedChar? e = some c)
    (rest : List Symbol) :
    scanString st (.char '\\' :: .char e :: rest) = scanString (st.push c) rest := by
  unfold escapedChar? at h
  split at h
  case h_9 => cases h
  all_goals
    cases h
    rw [scanString.eq_def]
    rfl

theorem scanString_unit (st : StringState) {s₁ s₂ s₃ s₄ : Symbol} {unit : Nat}
    (h : hexValue? [s₁, s₂, s₃, s₄] = some unit) (rest : List Symbol) :
    scanString st (.char '\\' :: .char 'u' :: s₁ :: s₂ :: s₃ :: s₄ :: rest) =
      scanString (st.pushUnit unit) rest := by
  rw [scanString, if_neg (by decide), if_neg (by decide), if_pos (by decide), h]

theorem scanString_append {st : StringState} {xs : List Symbol}
    (h : (scanString st xs).token.Whole) (rest : List Symbol) :
    scanString st (xs ++ rest) = (scanString st xs).before rest := by
  fun_induction scanString st xs with
  | case1 | case4 | case5 | case6 | case8 | case9 | case11 => exact absurd h id
  | case2 st b xs ih => rw [List.cons_append, scanString, ih h]
  | case3 st xs c hquote =>
    obtain rfl := beq_iff_eq.mp hquote
    exact scanString_quote st (c ++ rest)
  | case7 st xs _ _ hslash s₁ s₂ s₃ s₄ xs unit hunit ih =>
    obtain rfl := beq_iff_eq.mp hslash
    simp only [List.cons_append]
    rw [scanString_unit st hunit, ih h]
  | case10 st c _ _ hslash e xs _ _ c' he ih =>
    obtain rfl := beq_iff_eq.mp hslash
    simp only [List.cons_append]
    rw [scanString_escaped st he, ih h]
  | case12 st c xs hquote hcode hslash ih =>
    have hquote : c ≠ '"' := fun heq => hquote (beq_iff_eq.mpr heq)
    have hslash : c ≠ '\\' := fun heq => hslash (beq_iff_eq.mpr heq)
    rw [List.cons_append, scanString_plain st hquote hslash hcode, ih h]

theorem scanWord_append {t : Token} {cs : List Char} {xs : List Symbol}
    (h : (scanWord t cs xs).token.Whole) (rest : List Symbol) :
    scanWord t cs (xs ++ rest) = (scanWord t cs xs).before rest := by
  fun_induction scanWord t cs xs with
  | case1 xs => rfl
  | case2 c cs => exact absurd h id
  | case3 cs c xs ih => rw [List.cons_append, scanWord, if_pos rfl, ih h]
  | case4 c cs s xs hne => exact absurd h id

variable {rest : List Symbol}

theorem scanToken_append (hr : Delimited rest) {s : Symbol} {xs : List Symbol}
    (h : (scanToken s xs).token.Whole) :
    scanToken s (xs ++ rest) = (scanToken s xs).before rest := by
  cases s with
  | stray b => exact absurd h id
  | char c =>
    simp only [scanToken] at h ⊢
    split at h
    case h_7 => exact scanString_append h rest
    case h_8 | h_9 | h_10 => exact scanWord_append h rest
    case h_11 => exact scanNumber_append hr true h
    case h_12 =>
      split at h
      next hc =>
        rw [if_pos hc, if_pos hc]
        exact scanNumber_append hr false h
      next => exact absurd h id
    all_goals rfl

/-- The tokens of a text that does not break stay as they are in front of anything that does not
continue a number. -/
theorem tokens_append (hr : Delimited rest) {xs : List Symbol} (h : ∀ t ∈ tokens xs, t.Whole) :
    tokens (xs ++ rest) = tokens xs ++ tokens rest := by
  fun_induction tokens xs with
  | case1 => rfl
  | case2 xs c hc ih => rw [List.cons_append, tokens_gap hc, ih h]
  | case3 xs c hc lexeme ih =>
    obtain ⟨hfirst, hothers⟩ := List.forall_mem_cons.mp h
    have hc : isGap c = false := Bool.not_eq_true _ ▸ hc
    rw [List.cons_append, tokens_char hc, scanToken_append hr hfirst, List.cons_append]
    exact congrArg _ (ih hothers)
  | case4 xs b => exact absurd (h _ List.mem_cons_self) id

namespace Tree

/-! ## Faults -/

/-- A tree that no reader takes for a value. -/
def Faulty (t : Tree) : Prop := ∀ depth v, t.toValue depth ≠ .ok v

theorem faulty_fault (b : Break) : (fault b).Faulty := by
  intro depth v h
  cases h

theorem Open.faulty_close (b : Break) (o : Open) : (o.close (some b)).Faulty := by
  intro depth v h
  cases o <;> cases depth <;> simp only [close, toValue, cutFault, bind, Except.bind] at h
  case array.zero | object.zero => cases h
  all_goals split at h <;> cases h

theorem faulty_abandon {t : Tree} (ht : t.Faulty) (b : Break) (opened : List Open) :
    (abandon b t opened).Faulty := by
  induction opened generalizing t with
  | nil => exact ht
  | cons o opened ih => exact ih (Open.faulty_close b _)

theorem faulty_breakAt (b : Break) (expected : Expected) (opened : List Open) :
    (breakAt b expected opened).Faulty := by
  have hfault := faulty_abandon (faulty_fault b) b opened
  cases expected with
  | value | firstValue | colon => exact hfault
  | firstName | name | separator =>
    cases opened with
    | nil => exact faulty_fault b
    | cons o opened => exact faulty_abandon (Open.faulty_close b o) b opened

/-! ## States -/

namespace State

variable {opened outer : List Open} {expected : Expected} {t : Token} {ts : List Token} {v : Tree}

/-- A text that has broken holds no value. -/
def Sound : State → Prop
  | broken v => v.Faulty
  | _ => True

theorem sound_after (v : Tree) (opened : List Open) : (after v opened).Sound := by
  cases opened <;> trivial

theorem sound_readValue (expected : Expected) (opened : List Open) (t : Token) :
    (readValue expected opened t).Sound := by
  unfold readValue
  split
  · trivial
  · trivial
  · split
    · exact sound_after _ _
    · exact faulty_breakAt _ _ _

theorem sound_readName (expected : Expected) (opened : List Open) (t : Token) :
    (readName expected opened t).Sound := by
  unfold readName
  split
  · trivial
  · exact faulty_breakAt _ _ _

theorem sound_readSeparator (opened : List Open) (t : Token) : (readSeparator opened t).Sound := by
  unfold readSeparator
  split
  · trivial
  · trivial
  · exact sound_after _ _
  · exact sound_after _ _
  · exact faulty_breakAt _ _ _

theorem sound_step {st : State} (h : st.Sound) (t : Token) : (st.step t).Sound := by
  cases st with
  | complete v trailing => trivial
  | broken v => exact h
  | within opened expected =>
    cases expected with
    | value => exact sound_readValue .value opened t
    | name => exact sound_readName .name opened t
    | separator => exact sound_readSeparator opened t
    | firstValue =>
      simp only [step]
      split
      · exact sound_after _ _
      · exact sound_readValue .firstValue _ _
    | firstName =>
      simp only [step]
      split
      · exact sound_after _ _
      · exact sound_readName .firstName _ _
    | colon =>
      simp only [step]
      split
      · trivial
      · exact faulty_breakAt _ _ _

theorem sound_foldl {st : State} (h : st.Sound) (ts : List Token) : (ts.foldl step st).Sound := by
  induction ts generalizing st with
  | nil => exact h
  | cons t ts ih => exact ih (sound_step h t)

/-- A text that holds a value has been read to the end of that value. -/
theorem foldl_eq_complete {depth : Nat} {value : Value}
    (h : (ts.foldl step (within [] .value)).reading = ⟨v, false⟩) (hv : v.toValue depth = .ok value) :
    ts.foldl step (within [] .value) = complete v false := by
  have hstart : (within [] .value).Sound := trivial
  have hsound := sound_foldl hstart ts
  cases hst : ts.foldl step (within [] .value) with
  | within opened expected =>
    rw [hst] at h
    obtain rfl := congrArg Reading.tree h
    exact absurd hv (faulty_breakAt _ expected opened depth value)
  | complete v' trailing =>
    rw [hst] at h
    cases h
    rfl
  | broken v' =>
    rw [hst] at h hsound
    obtain rfl := congrArg Reading.tree h
    exact absurd hv (hsound depth value)

theorem foldl_step_broken (v : Tree) (ts : List Token) : ts.foldl step (broken v) = broken v := by
  induction ts with
  | nil => rfl
  | cons t ts ih => exact ih

theorem foldl_step_complete (v : Tree) (trailing : Bool) (t : Token) (ts : List Token) :
    (t :: ts).foldl step (complete v trailing) = complete v true := by
  induction ts generalizing trailing t with
  | nil => rfl
  | cons t' ts ih => exact ih true t'

/-- The same state inside further containers; a value that was complete is a part of them. -/
def inside (outer : List Open) : State → State
  | within opened expected => within (opened ++ outer) expected
  | complete v _ => after v outer
  | broken v => broken v

/-- Whether a text has broken. -/
def IsBroken : State → Prop
  | broken _ => True
  | _ => False

theorem inside_after_eq (v : Tree) (opened outer : List Open) :
    (after v opened).inside outer = after v (opened ++ outer) := by
  cases opened <;> rfl

theorem readValue_inside (expected : Expected) (opened outer : List Open) (t : Token) :
    ¬ (readValue expected opened t).IsBroken →
      readValue expected (opened ++ outer) t = (readValue expected opened t).inside outer := by
  unfold readValue
  split
  · exact fun _ => rfl
  · exact fun _ => rfl
  · split
    · exact fun _ => (inside_after_eq _ _ _).symm
    · exact fun h => absurd trivial h

theorem readName_inside (h : ¬ (readName expected opened t).IsBroken) (outer : List Open) :
    readName expected (opened ++ outer) t = (readName expected opened t).inside outer := by
  unfold readName at h ⊢
  split at h
  · rfl
  · exact absurd trivial h

theorem readSeparator_inside (h : ¬ (readSeparator opened t).IsBroken) (outer : List Open) :
    readSeparator (opened ++ outer) t = (readSeparator opened t).inside outer := by
  unfold readSeparator at h ⊢
  split at h
  · rfl
  · rfl
  · exact (inside_after_eq _ _ _).symm
  · exact (inside_after_eq _ _ _).symm
  · exact absurd trivial h

theorem step_firstValue (ht : t ≠ .closeArray) (opened : List Open) :
    (within opened .firstValue).step t = readValue .firstValue opened t := by
  simp only [step]
  split
  · exact absurd rfl ht
  · rfl

theorem step_firstName_of_ne (ht : t ≠ .closeObject) (opened : List Open) :
    (within opened .firstName).step t = readName .firstName opened t := by
  simp only [step]
  split
  · exact absurd rfl ht
  · rfl

/-- One more token never touches the containers around the text, unless the text breaks. -/
theorem step_inside (h : ¬ ((within opened expected).step t).IsBroken) (outer : List Open) :
    (within (opened ++ outer) expected).step t = ((within opened expected).step t).inside outer := by
  cases expected with
  | value => exact readValue_inside _ _ _ _ h
  | name => exact readName_inside h outer
  | separator => exact readSeparator_inside h outer
  | firstValue =>
    by_cases ht : t = .closeArray
    · obtain rfl := ht
      -- a bracket that closes nothing breaks the text, so it cannot close a container around it
      cases opened with
      | nil => exact absurd trivial h
      | cons o opened => exact (inside_after_eq _ _ _).symm
    · rw [step_firstValue ht] at h ⊢
      rw [step_firstValue ht]
      exact readValue_inside _ _ _ _ h
  | firstName =>
    by_cases ht : t = .closeObject
    · obtain rfl := ht
      cases opened with
      | nil => exact absurd trivial h
      | cons o opened => exact (inside_after_eq _ _ _).symm
    · rw [step_firstName_of_ne ht] at h ⊢
      rw [step_firstName_of_ne ht]
      exact readName_inside h outer
  | colon =>
    simp only [step] at h ⊢
    split at h
    · rfl
    · exact absurd trivial h

/-- A token at which the text breaks is nowhere welcome. -/
theorem whole_of_step (h : ¬ ((within opened expected).step t).IsBroken) : t.Whole := by
  cases t with
  | brokenString b | broken b => cases expected <;> exact absurd trivial h
  | _ => trivial

theorem not_isBroken_of_foldl {st : State} (h : (t :: ts).foldl step st = complete v false) :
    ¬ (st.step t).IsBroken := by
  intro hb
  rw [List.foldl_cons] at h
  cases hst : st.step t with
  | within | complete => rw [hst] at hb; exact hb
  | broken w =>
    rw [hst, foldl_step_broken] at h
    cases h

/-- Reading a complete value inside open containers adds it to the innermost one. -/
theorem foldl_inside (h : ts.foldl step (within opened expected) = complete v false)
    (outer : List Open) :
    (∀ t ∈ ts, t.Whole) ∧ ts.foldl step (within (opened ++ outer) expected) = after v outer := by
  induction ts generalizing opened expected with
  | nil => cases h
  | cons t ts ih =>
    have hbroken := not_isBroken_of_foldl h
    have hwhole := whole_of_step hbroken
    rw [List.foldl_cons] at h ⊢
    rw [step_inside hbroken]
    cases hst : (within opened expected).step t with
    | within opened' expected' =>
      rw [hst] at h
      obtain ⟨hts, hfold⟩ := ih h
      exact ⟨List.forall_mem_cons.mpr ⟨hwhole, hts⟩, hfold⟩
    | complete w trailing =>
      rw [hst] at h
      -- whatever followed the value would make it a value with something after it
      cases ts with
      | nil =>
        cases h
        exact ⟨List.forall_mem_singleton.mpr hwhole, rfl⟩
      | cons t' ts =>
        rw [foldl_step_complete] at h
        cases h
    | broken w =>
      rw [hst] at hbroken
      exact absurd trivial hbroken

/-- Where a value may come next. -/
def AtValue (expected : Expected) : Prop := expected = .value ∨ expected = .firstValue

/-- A complete value is read alike where an array may also end. -/
theorem foldl_atValue (he : AtValue expected)
    (h : ts.foldl step (within opened .value) = complete v false) :
    ts.foldl step (within opened expected) = complete v false := by
  rcases he with rfl | rfl
  · exact h
  cases ts with
  | nil => cases h
  | cons t ts =>
    have hbroken := not_isBroken_of_foldl h
    have ht : t ≠ .closeArray := by
      rintro rfl
      exact hbroken trivial
    have hstep : (within opened .firstValue).step t = (within opened .value).step t := by
      rw [step_firstValue ht]
      simp only [step, readValue] at hbroken ⊢
      split at hbroken
      · rfl
      · rfl
      · split at hbroken
        next => rfl
        next => exact absurd trivial hbroken
    rw [List.foldl_cons, hstep]
    exact h

end State

end Tree

/-! ## Values in their place -/

namespace Tree.State

/-- The state after some more symbols. -/
def readOn (st : State) (symbols : List Symbol) : State := (tokens symbols).foldl step st

variable {st : State}

theorem readOn_nil (st : State) : st.readOn [] = st := by
  rw [readOn, tokens]
  rfl

theorem readOn_gap {c : Char} (hc : isGap c = true) (rest : List Symbol) :
    st.readOn (.char c :: rest) = st.readOn rest := by
  rw [readOn, readOn, tokens_gap hc]

theorem readOn_gaps {cs : List Char} (hc : ∀ c ∈ cs, isGap c = true) (rest : List Symbol) :
    st.readOn (cs.map .char ++ rest) = st.readOn rest := by
  induction cs with
  | nil => rfl
  | cons c cs ih =>
    obtain ⟨hc, hcs⟩ := List.forall_mem_cons.mp hc
    rw [List.map_cons, List.cons_append, readOn_gap hc, ih hcs]

theorem readOn_char {c : Char} {xs rest : List Symbol} {t : Token} (hc : isGap c = false)
    (h : scanToken (.char c) xs = ⟨t, rest⟩) :
    st.readOn (.char c :: xs) = (st.step t).readOn rest := by
  rw [readOn, tokens_char hc, h]
  rfl

end Tree.State

/-- A text that holds one value and nothing else, with at most `depth` containers open at once. -/
def HoldsValue (depth : Nat) (text : String) : Prop :=
  (Tree.ofText text).trailing = false ∧ ∃ v, (Tree.ofText text).tree.toValue depth = .ok v

/-- A text that holds a value is read as that value wherever a value may come. -/
theorem HoldsValue.readOn {depth : Nat} {text : String} (h : HoldsValue depth text)
    {expected : Tree.Expected} (he : Tree.State.AtValue expected) (opened : List Tree.Open)
    (hr : Delimited rest) :
    (Tree.State.within opened expected).readOn (text.toList.map .char ++ rest) =
      (Tree.State.after (Tree.ofText text).tree opened).readOn rest := by
  obtain ⟨htrailing, v, hv⟩ := h
  have hreading : ((tokens (text.toList.map .char)).foldl Tree.State.step
      (.within [] .value)).reading = ⟨(Tree.ofText text).tree, false⟩ := by
    rw [← htrailing]
    rfl
  have hcomplete := Tree.State.foldl_atValue he (Tree.State.foldl_eq_complete hreading hv)
  obtain ⟨hwhole, hfold⟩ := Tree.State.foldl_inside hcomplete opened
  rw [Tree.State.readOn, tokens_append hr hwhole, List.foldl_append]
  exact congrArg (Tree.State.readOn · rest) hfold

end LayoutTrail.Json
