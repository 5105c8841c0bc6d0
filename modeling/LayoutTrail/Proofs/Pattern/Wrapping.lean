import LayoutTrail.Pattern.Reader

/-!
# Readers and the text put after a pattern

A pattern is pasted between anchors and the result is read as a whole.  So every reader of the
pattern language is compared here with itself: once on the rest of the pattern alone and once on
the same rest followed by the closing anchor.  Both give the same and leave the same, unless a
comment has hidden the closing anchor, or the pattern alone ends too early and the reader goes on
into the closing anchor.
-/

namespace LayoutTrail.Pattern

/-- What is put after a pattern to anchor it. -/
def closing : List Char := [')', '$']

/-! ## Rests of the two texts -/

/-- `cs'` is what is left of a text with the closing after it, where `cs` is left of the text alone.
Once the parenthesis of the closing has been read or a comment has hidden it, both are the same. -/
inductive Followed : List Char → List Char → Prop
  | within (cs : List Char) : Followed cs (cs ++ closing)
  | past {cs : List Char} (h : cs <:+ ['$']) : Followed cs cs

section Rests

variable {cs cs' : List Char}

theorem followed_self_iff : Followed cs cs ↔ cs <:+ ['$'] := by
  constructor
  · suffices h : ∀ cs', Followed cs cs' → cs = cs' → cs <:+ ['$'] from fun hself => h cs hself rfl
    rintro _ (_ | hpast) heq
    · simp [closing] at heq
    · exact hpast
  · exact .past

theorem followed_nil : Followed [] [] := .past List.nil_suffix

theorem followed_dollar : Followed ['$'] ['$'] := .past (List.suffix_refl _)

/-- Both rests are at their end, or only the one without the closing is, or both go on with the same
character. -/
@[elab_as_elim]
theorem Followed.split {motive : List Char → List Char → Prop} (h : Followed cs cs')
    (nil : motive [] []) (ended : motive [] closing)
    (cons : ∀ c rest rest', Followed (c :: rest) (c :: rest') → Followed rest rest' →
      motive (c :: rest) (c :: rest')) :
    motive cs cs' := by
  cases h with
  | within =>
    cases cs with
    | nil => exact ended
    | cons c cs => exact cons c cs (cs ++ closing) (.within (c :: cs)) (.within cs)
  | past hpast =>
    cases cs with
    | nil => exact nil
    | cons c cs => exact cons c cs cs (.past hpast) (.past ((List.suffix_cons c cs).trans hpast))

/-- A reader that takes a character goes on into the closing as it would go on anywhere. -/
@[elab_as_elim]
theorem Followed.uncons {motive : List Char → List Char → Prop} (h : Followed cs cs')
    (nil : motive [] []) (onward : motive closing closing → motive [] closing)
    (cons : ∀ c rest rest', Followed rest rest' → motive (c :: rest) (c :: rest')) :
    motive cs cs' :=
  h.split nil (onward (cons ')' ['$'] ['$'] followed_dollar)) fun c rest rest' _ => cons c rest rest'

@[elab_as_elim]
theorem Followed.strong {motive : List Char → List Char → Prop} (h : Followed cs cs')
    (step : ∀ cs cs', Followed cs cs' →
      (∀ rest rest', rest'.length < cs'.length → Followed rest rest' → motive rest rest') →
      motive cs cs') : motive cs cs' := by
  induction hn : cs'.length using Nat.strongRecOn generalizing cs cs' with
  | ind n ih =>
    exact step cs cs' h fun rest rest' hlt hrest => ih rest'.length (hn ▸ hlt) hrest rfl

theorem Followed.any_head? (h : Followed cs cs') {p : Char → Bool} (hp : p ')' = false) :
    cs'.head?.any p = cs.head?.any p :=
  h.uncons rfl (fun _ => hp) fun _ _ _ _ => rfl

/-- A character that is not in the closing comes next in both rests or in neither. -/
theorem Followed.beq_head? (h : Followed cs cs') {c : Char} (hc : c ∉ closing) :
    (cs'.head? == some c) = (cs.head? == some c) := by
  refine h.split rfl ?_ fun _ _ _ _ _ => rfl
  simp only [closing, List.mem_cons, List.not_mem_nil, or_false, not_or] at hc
  simp [closing, Ne.symm hc.1]

theorem Followed.tail (h : Followed cs cs') (hne : cs ≠ []) : Followed cs.tail cs'.tail := by
  revert hne
  exact h.split (fun hne => absurd rfl hne) (fun hne => absurd rfl hne) fun _ _ _ _ hrest _ => hrest

theorem isBlank_paren : isBlank ')' = false := by decide +kernel

theorem isBlank_dollar : isBlank '$' = false := by decide +kernel

/-- Blanks end at the closing; a comment may go on over it. -/
theorem skipBlank_append_closing (inComment : Bool) (cs : List Char) :
    skipBlank inComment (cs ++ closing) = skipBlank inComment cs ++ closing ∨
      skipBlank inComment cs = [] ∧ skipBlank inComment (cs ++ closing) = [] := by
  induction cs generalizing inComment with
  | nil =>
    cases inComment with
    | false => simp [skipBlank, closing, isBlank_paren]
    | true => simp [skipBlank, closing]
  | cons c cs ih =>
    simp only [List.cons_append, skipBlank]
    split
    · exact ih _
    · split
      · exact ih _
      · split
        · exact ih _
        · exact Or.inl rfl

theorem skipBlank_dollar : skipBlank false ['$'] = ['$'] := by simp [skipBlank, isBlank_dollar]

theorem skip_dollar (f : Flags) : f.skip ['$'] = ['$'] := by
  unfold Flags.skip
  split
  · exact skipBlank_dollar
  · rfl

theorem Followed.skip (f : Flags) (h : Followed cs cs') : Followed (f.skip cs) (f.skip cs') := by
  unfold Flags.skip
  split
  · cases h with
    | within =>
      rcases skipBlank_append_closing false cs with hgoes | ⟨hnone, hhidden⟩
      · exact hgoes ▸ .within _
      · exact hnone ▸ hhidden ▸ followed_nil
    | past hpast =>
      rcases List.suffix_cons_iff.mp hpast with rfl | hnil
      · rw [skipBlank_dollar]
        exact followed_dollar
      · rw [List.suffix_nil.mp hnil]
        exact followed_nil
  · exact h

theorem skip_append_closing_cases (f : Flags) (cs : List Char) :
    f.skip cs = [] ∧ f.skip (cs ++ closing) = [] ∨
      f.skip cs = [] ∧ f.skip (cs ++ closing) = closing ∨
      ∃ c rest rest', f.skip cs = c :: rest ∧ f.skip (cs ++ closing) = c :: rest' ∧
        Followed rest rest' :=
  ((Followed.within cs).skip f).split (.inl ⟨rfl, rfl⟩) (.inr (.inl ⟨rfl, rfl⟩))
    fun c rest rest' _ hrest => .inr (.inr ⟨c, rest, rest', rfl, rfl, hrest⟩)

theorem Followed.dropBlank (h : Followed cs cs') :
    Followed (cs.dropWhile isBlank) (cs'.dropWhile isBlank) := by
  cases h with
  | within =>
    induction cs with
    | nil => simpa [closing, isBlank_paren] using Followed.within []
    | cons c cs ih =>
      simp only [List.cons_append, List.dropWhile_cons]
      split
      · exact ih
      · exact .within (c :: cs)
  | past hpast => exact .past ((List.dropWhile_suffix _).trans hpast)

theorem Followed.dropLazy (h : Followed cs cs') : Followed (dropLazy cs) (dropLazy cs') := by
  refine h.split followed_nil (.within []) fun c rest rest' hboth hrest => ?_
  by_cases hc : c = '?'
  · subst hc
    exact hrest
  · simp (disch := simp [hc]) only [Pattern.dropLazy]
    exact hboth

end Rests

/-! ## Readings of the two rests -/

/-- What a reader gives for the two rests: the same value and rests that still belong together, or
no value in either case; or no value for the rest alone, where with the closing the reader went
past its parenthesis. -/
inductive Alike {α : Type} :
    Except Fault (α × List Char) → Except Fault (α × List Char) → Prop
  | both (a : α) {rest rest' : List Char} (h : Followed rest rest') :
    Alike (.ok (a, rest)) (.ok (a, rest'))
  | failed (e e' : Fault) : Alike (.error e) (.error e')
  | overrun (e : Fault) (a : α) {rest : List Char} (h : rest <:+ ['$']) :
    Alike (.error e) (.ok (a, rest))

section Combining

variable {α β : Type} {x y : Except Fault (α × List Char)}

theorem Alike.of_error (h : Alike y y) (e : Fault) : Alike (.error e) y := by
  cases y with
  | error e' => exact .failed e e'
  | ok y =>
    cases h with
    | both a hrest => exact .overrun e a (followed_self_iff.mp hrest)

theorem Alike.self_bind {next : α × List Char → Except Fault (β × List Char)} (h : Alike y y)
    (hpast : ∀ a rest, rest <:+ ['$'] → Alike (next (a, rest)) (next (a, rest))) :
    Alike (y >>= next) (y >>= next) := by
  cases y with
  | error e => exact .failed e e
  | ok y =>
    cases h with
    | both a hrest => exact hpast a _ (followed_self_iff.mp hrest)

theorem Alike.bind_of_past {next next' : α × List Char → Except Fault (β × List Char)}
    (h : Alike x y)
    (hnext : ∀ a rest rest', Followed rest rest' → Alike (next (a, rest)) (next' (a, rest')))
    (hpast : ∀ a rest, rest <:+ ['$'] → Alike (next' (a, rest)) (next' (a, rest))) :
    Alike (x >>= next) (y >>= next') := by
  cases h with
  | both a hrest => exact hnext a _ _ hrest
  | failed e e' => exact .failed e e'
  | overrun e a hrest => exact (hpast a _ hrest).of_error e

theorem Alike.bind {next : α × List Char → Except Fault (β × List Char)} (h : Alike x y)
    (hnext : ∀ a rest rest', Followed rest rest' → Alike (next (a, rest)) (next (a, rest'))) :
    Alike (x >>= next) (y >>= next) :=
  h.bind_of_past hnext fun a rest hrest => hnext a rest rest (.past hrest)

/-- What does not depend on the rest comes out the same. -/
theorem alike_bind (x : Except Fault β) {next next' : β → Except Fault (α × List Char)}
    (hnext : ∀ b, Alike (next b) (next' b)) : Alike (x >>= next) (x >>= next') := by
  cases x with
  | error e => exact .failed e e
  | ok b => exact hnext b

end Combining

/-! ## Escapes -/

section Escapes

variable {cs cs' : List Char} (f : Flags)

theorem alike_readHexDigits_cons (count : Nat) (c : Char) (h : Followed cs cs') :
    Alike (readHexDigits f (count + 1) (c :: cs)) (readHexDigits f (count + 1) (c :: cs')) := by
  induction count generalizing c cs cs' with
  | zero =>
    simp only [readHexDigits]
    split
    · exact .failed _ _
    · exact .both [c] (h.skip f)
  | succ count ih =>
    rw [readHexDigits, readHexDigits]
    split
    · exact .failed _ _
    · refine Alike.bind ?_ fun digits rest rest' hrest => .both (c :: digits) hrest
      exact (h.skip f).uncons (.failed _ _) (fun honward => honward.of_error _)
        fun c rest rest' hrest => ih c hrest

theorem alike_readBracedHex (h : Followed cs cs') :
    Alike (readBracedHex f cs) (readBracedHex f cs') := by
  refine h.strong fun cs cs' h ih => ?_
  have hlen := f.length_skip_le cs'
  unfold readBracedHex
  revert hlen
  refine (h.skip f).uncons (fun _ => .failed _ _) (fun honward hlen => (honward hlen).of_error _) ?_
  intro c rest rest' hrest hlen
  dsimp only
  split
  · exact .both [] (hrest.skip f)
  · split
    · exact .failed _ _
    · exact (ih rest rest' hlen hrest).bind fun digits rest rest' hrest => .both (c :: digits) hrest

theorem alike_readHex (count : Nat) (h : Followed cs cs') :
    Alike (readHex f (count + 1) cs) (readHex f (count + 1) cs') := by
  unfold readHex
  refine (h.skip f).uncons (.failed _ _) (fun honward => honward.of_error _)
    fun c rest rest' hrest => ?_
  by_cases hc : c = '\x7b'
  · subst hc
    refine (alike_readBracedHex f hrest).bind fun digits rest rest' hrest => ?_
    dsimp only
    split
    · exact .failed _ _
    · exact alike_bind _ fun c => .both _ hrest
  · simp (disch := simp [hc]) only
    refine (alike_readHexDigits_cons f count c hrest).bind fun digits rest rest' hrest => ?_
    exact alike_bind _ fun c => .both _ hrest

theorem alike_readName (h : Followed cs cs') : Alike (readName f cs) (readName f cs') := by
  refine h.strong fun cs cs' h ih => ?_
  have hlen := f.length_skip_le cs'
  unfold readName
  revert hlen
  refine (h.skip f).uncons (fun _ => .failed _ _) (fun honward hlen => (honward hlen).of_error _) ?_
  intro c rest rest' hrest hlen
  dsimp only
  split
  · exact .both [] hrest
  · exact (ih rest rest' hlen hrest).bind fun name rest rest' hrest => .both (c :: name) hrest

theorem alike_readProperty (negated : Bool) (h : Followed cs cs') :
    Alike (readProperty f negated cs) (readProperty f negated cs') := by
  have hname : Alike (propertyName f cs) (propertyName f cs') := by
    unfold propertyName
    refine (h.skip f).uncons (.failed _ _) (fun honward => honward.of_error _)
      fun c rest rest' hrest => ?_
    by_cases hbrace : c = '\x7b'
    · subst hbrace
      exact alike_readName f hrest
    · by_cases hslash : c = '\\'
      · subst hslash
        exact .failed _ _
      · simp (disch := simp [hbrace, hslash]) only
        exact .both [c] hrest
  refine hname.bind fun name rest rest' hrest => ?_
  exact alike_bind _ fun set => .both _ hrest

theorem followed_boundaryName (h : Followed cs cs') :
    (boundaryName f cs).1 = (boundaryName f cs').1 ∧
      Followed (boundaryName f cs).2 (boundaryName f cs').2 := by
  refine h.strong fun cs cs' h ih => ?_
  have hlen := f.length_skip_le cs'
  unfold boundaryName
  revert hlen
  refine (h.skip f).split (fun _ => ⟨rfl, followed_nil⟩) (fun _ => ⟨rfl, .within []⟩) ?_
  intro c rest rest' hboth hrest hlen
  dsimp only
  split
  · obtain ⟨hname, hrest⟩ := ih rest rest' hlen hrest
    exact ⟨congrArg (c :: ·) hname, hrest⟩
  · exact ⟨rfl, hboth⟩

theorem alike_readBoundaryName (h : Followed cs cs') :
    Alike (readBoundaryName f cs) (readBoundaryName f cs') := by
  obtain ⟨hname, hrest⟩ := followed_boundaryName f h
  simp only [readBoundaryName, hname]
  refine hrest.uncons (.failed _ _) (fun honward => honward.of_error _) fun c rest rest' hrest => ?_
  by_cases hc : c = '\x7d'
  · subst hc
    cases hname : boundaryOf? f.wordRule (String.ofList (boundaryName f cs').1) with
    | none => simpa only [hname] using Alike.failed _ _
    | some l => simpa only [hname] using Alike.both l hrest
  · simp (disch := simp [hc]) only
    exact .failed _ _

theorem alike_readBoundary (h : Followed cs cs') :
    Alike (readBoundary f cs) (readBoundary f cs') := by
  refine h.split (.both _ followed_nil) (.both _ (.within [])) fun c rest rest' hboth hrest => ?_
  by_cases hc : c = '\x7b'
  · subst hc
    have hany := (hrest.skip f).any_head? (p := isBoundaryChar) rfl
    simp only [readBoundary, hany]
    split
    · exact alike_readBoundaryName f hrest
    · exact .both _ hboth
  · simp (disch := simp [hc]) only [readBoundary]
    exact .both _ hboth

theorem alike_readEscape (h : Followed cs cs') :
    Alike (readEscape f cs) (readEscape f cs') := by
  refine h.uncons (.failed _ _) (fun honward => honward.of_error _) fun c rest rest' hrest => ?_
  simp only [readEscape]
  split
  · exact alike_readHex f 1 hrest
  split
  · exact alike_readHex f 3 hrest
  split
  · exact alike_readHex f 7 hrest
  split
  · exact alike_readProperty f _ hrest
  split
  · exact .both _ hrest
  split
  · exact alike_bind _ fun set => .both _ hrest
  split
  · exact .both _ hrest
  split
  case h_9 => exact (alike_readBoundary f hrest).bind fun l rest rest' hrest => .both _ hrest
  case h_13 => exact .failed _ _
  all_goals exact .both _ hrest

end Escapes

/-! ## Classes -/

/-- What a reader that may find nothing gives for the two rests. -/
inductive AlikeIfAny {α : Type} : Option (α × List Char) → Option (α × List Char) → Prop
  | both (a : α) {rest rest' : List Char} (h : Followed rest rest') :
    AlikeIfAny (some (a, rest)) (some (a, rest'))
  | neither : AlikeIfAny none none

theorem AlikeIfAny.map {α β : Type} {x y : Option (α × List Char)} (h : AlikeIfAny x y)
    {next : α × List Char → β × List Char} {g : α → β}
    (hnext : ∀ a rest, next (a, rest) = (g a, rest)) : AlikeIfAny (x.map next) (y.map next) := by
  cases h with
  | both a hrest =>
    rw [Option.map_some, Option.map_some, hnext, hnext]
    exact .both _ hrest
  | neither => exact .neither

section Classes

variable {cs cs' : List Char} (f : Flags)

/-- A character that is not in the closing is found in both rests or in neither. -/
theorem alike_splitAt? (stop : Char) (hstop : stop ∉ closing) (h : Followed cs cs') :
    AlikeIfAny (splitAt? [stop] cs) (splitAt? [stop] cs') := by
  refine h.strong fun cs cs' h ih => ?_
  revert ih
  refine h.split (fun _ => .neither) (fun _ => ?_) fun c rest rest' _ hrest ih => ?_
  · have hnone : splitAt? [stop] closing = none := by
      simp only [closing, List.mem_cons, List.not_mem_nil, or_false, not_or] at hstop
      simp [splitAt?, closing, hstop]
    rw [hnone]
    exact .neither
  · by_cases hc : stop = c
    · simpa [splitAt?, hc] using AlikeIfAny.both [] hrest
    · have hpre (cs : List Char) : ¬[stop].isPrefixOf (c :: cs) = true := by simp [hc]
      rw [splitAt?, splitAt?, if_neg (hpre rest), if_neg (hpre rest')]
      exact (ih rest rest' (Nat.lt_succ_self _) hrest).map fun _ _ => rfl

theorem alike_namedAsciiClass? (h : Followed cs cs') :
    AlikeIfAny (namedAsciiClass? cs) (namedAsciiClass? cs') := by
  have hsplit := alike_splitAt? ':' (by decide) h
  unfold namedAsciiClass?
  generalize splitAt? [':'] cs = x, splitAt? [':'] cs' = y at hsplit ⊢
  cases hsplit with
  | neither => exact .neither
  | both name hrest =>
    refine hrest.split .neither .neither fun c rest rest' _ hrest => ?_
    by_cases hc : c = ']'
    · subst hc
      simp only
      cases asciiClass? name with
      | none => exact .neither
      | some s => exact .both s hrest
    · simp (disch := simp [hc]) only
      exact .neither

theorem alike_readAsciiClass? (h : Followed cs cs') :
    AlikeIfAny (readAsciiClass? cs) (readAsciiClass? cs') := by
  refine h.split .neither .neither fun c rest rest' _ hrest => ?_
  by_cases hc : c = ':'
  · subst hc
    refine hrest.split .neither .neither fun c rest rest' hboth hrest => ?_
    by_cases hcaret : c = '^'
    · subst hcaret
      exact (alike_namedAsciiClass? hrest).map (g := (·, true)) fun _ _ => rfl
    · simp (disch := simp [hcaret]) only [readAsciiClass?]
      exact (alike_namedAsciiClass? hboth).map (g := (·, false)) fun _ _ => rfl
  · simp (disch := simp [hc]) only [readAsciiClass?]
    exact .neither

theorem followed_openingHyphens (level : Level) (h : Followed cs cs') :
    (openingHyphens f level cs).1 = (openingHyphens f level cs').1 ∧
      Followed (openingHyphens f level cs).2 (openingHyphens f level cs').2 := by
  revert level
  refine h.strong fun cs cs' h ih level => ?_
  have hlen := f.length_skip_le cs'
  unfold openingHyphens
  revert hlen
  refine (h.skip f).split (fun _ => ⟨rfl, followed_nil⟩) (fun _ => ⟨rfl, .within []⟩) ?_
  intro c rest rest' hboth hrest hlen
  by_cases hc : c = '-'
  · subst hc
    exact ih rest rest' hlen hrest _
  · simp (disch := simp [hc]) only
    exact ⟨trivial, hboth⟩

theorem followed_openingCaret (h : Followed cs cs') :
    (openingCaret f cs).1 = (openingCaret f cs').1 ∧
      Followed (openingCaret f cs).2 (openingCaret f cs').2 := by
  unfold openingCaret
  refine (h.skip f).split ⟨rfl, followed_nil⟩ ⟨rfl, .within []⟩ fun c rest rest' hboth hrest => ?_
  by_cases hc : c = '^'
  · subst hc
    exact ⟨rfl, hrest⟩
  · simp (disch := simp [hc]) only
    exact ⟨trivial, hboth⟩

theorem followed_openingBracket (level : Level) (h : Followed cs cs') :
    (openingBracket level cs).1 = (openingBracket level cs').1 ∧
      Followed (openingBracket level cs).2 (openingBracket level cs').2 := by
  refine h.split ⟨rfl, followed_nil⟩ ⟨rfl, .within []⟩ fun c rest rest' hboth hrest => ?_
  by_cases hc : c = ']'
  · subst hc
    simp only [openingBracket]
    split
    · exact ⟨rfl, hrest⟩
    · exact ⟨rfl, hboth⟩
  · simp (disch := simp [hc]) only [openingBracket]
    exact ⟨trivial, hboth⟩

theorem followed_openLevel (h : Followed cs cs') :
    (openLevel f cs).1 = (openLevel f cs').1 ∧
      Followed (openLevel f cs).2 (openLevel f cs').2 := by
  obtain ⟨hnegated, hcaret⟩ := followed_openingCaret f h
  obtain ⟨hlevel, hhyphens⟩ := followed_openingHyphens f ⟨(openingCaret f cs').1, [], none⟩ hcaret
  simp only [openLevel, hnegated, hlevel]
  exact followed_openingBracket _ hhyphens

theorem peekVisible_followed {c : Char} (hc : c ∉ closing) (h : Followed cs cs') :
    (peekVisible f cs' == some c) = (peekVisible f cs == some c) := by
  unfold peekVisible
  split
  · refine h.dropBlank.split rfl ((Followed.within []).beq_head? hc)
      fun d rest rest' hboth hrest => ?_
    by_cases hd : d = '#'
    · subst hd
      exact hrest.dropBlank.beq_head? hc
    · simp (disch := simp [hd]) only
      exact hboth.beq_head? hc
  · exact h.beq_head? hc

theorem alike_readMember_cons (c : Char) (h : Followed cs cs') :
    Alike (readMember f (c :: cs)) (readMember f (c :: cs')) := by
  by_cases hc : c = '\\'
  · subst hc
    exact alike_readEscape f h
  · simp (disch := simp [hc]) only [readMember]
    exact .both _ h

theorem alike_readRange (first : Primitive) (h : Followed cs cs') :
    Alike (readRange f first cs) (readRange f first cs') := by
  have hlast : Alike (readMember f (f.skip cs)) (readMember f (f.skip cs')) :=
    (h.skip f).uncons (.failed _ _) (fun honward => honward.of_error _)
      fun c rest rest' hrest => alike_readMember_cons f c hrest
  refine hlast.bind fun last rest rest' hrest => ?_
  refine alike_bind _ fun low => alike_bind _ fun high => ?_
  split
  · exact .failed _ _
  · exact .both _ hrest

theorem alike_readItem_cons (c : Char) (h : Followed cs cs') :
    Alike (readItem f (c :: cs)) (readItem f (c :: cs')) := by
  refine (alike_readMember_cons f c h).bind fun first rest rest' hrest => ?_
  have hitem {xs xs' : List Char} (h : Followed xs xs') :
      Alike (do .ok (← first.asItem f, xs)) (do .ok (← first.asItem f, xs')) :=
    alike_bind _ fun s => .both s h
  dsimp only
  refine (hrest.skip f).split (hitem followed_nil) (hitem (.within []))
    fun c rest rest' hboth hrest => ?_
  by_cases hc : c = '-'
  · subst hc
    have hpeek {c : Char} (hc : c ∉ closing) := peekVisible_followed f hc hrest
    simp only [hpeek (c := ']') (by decide), hpeek (c := '-') (by decide)]
    split
    · exact hitem hboth
    · exact alike_readRange f first hrest
  · simp (disch := simp [hc]) only
    exact hitem hboth

theorem alike_openStep (level : Level) (outer : List Level) (h : Followed cs cs') :
    Alike (openStep f level outer cs) (openStep f level outer cs') := by
  have hclass := alike_readAsciiClass? h
  obtain ⟨hlevel, hrest⟩ := followed_openLevel f h
  unfold openStep
  generalize readAsciiClass? cs = x, readAsciiClass? cs' = y at hclass ⊢
  cases hclass with
  | both a hrest => exact alike_bind _ fun item => .both _ hrest
  | neither =>
    simp only [hlevel]
    exact .both _ hrest

theorem alike_itemStep (level : Level) (outer : List Level) (c : Char) (h : Followed cs cs') :
    Alike (itemStep f level outer (c :: cs)) (itemStep f level outer (c :: cs')) :=
  (alike_readItem_cons f c h).bind fun _ _ _ hrest => .both _ hrest

theorem SetOp.notMem_closing_of_ofChar? {c : Char} {op : SetOp} (h : SetOp.ofChar? c = some op) :
    c ∉ closing := by
  intro hc
  simp only [closing, List.mem_cons, List.not_mem_nil, or_false] at hc
  rcases hc with rfl | rfl <;> cases h

theorem alike_bracketStep (level : Level) (outer : List Level) (c : Char) (h : Followed cs cs') :
    Alike (bracketStep f level outer c cs) (bracketStep f level outer c cs') := by
  unfold bracketStep
  split
  · exact alike_openStep f level outer h
  split
  · exact alike_bind _ fun next => .both next h
  split
  next op hop =>
    rw [h.beq_head? (SetOp.notMem_closing_of_ofChar? hop)]
    split
    next hhead =>
      have hne : cs ≠ [] := by
        rintro rfl
        simp at hhead
      exact .both _ (h.tail hne)
    next => exact alike_itemStep f level outer c h
  next => exact alike_itemStep f level outer c h

/-- What is done after a step in a class of which `n` characters were left. -/
def afterStep (n : Nat) : BracketStep × List Char → Except Fault (Measured × List Char)
  | (.done m, rest) => .ok (m, rest)
  | (.inside level outer, rest) =>
    if rest.length < n then readLevels f level outer rest else .error .malformed

theorem readLevels_eq (level : Level) (outer : List Level) (cs : List Char) :
    readLevels f level outer cs =
      match f.skip cs with
      | [] => .error .malformed
      | c :: rest => bracketStep f level outer c rest >>= afterStep f cs.length := by
  rw [readLevels]
  cases f.skip cs with
  | nil => rfl
  | cons c rest =>
    rcases hstep : bracketStep f level outer c rest with e | ⟨⟨level, outer⟩ | m, rest⟩ <;>
      simp only [hstep] <;> rfl

theorem alike_readLevels (level : Level) (outer : List Level) (h : Followed cs cs') :
    Alike (readLevels f level outer cs) (readLevels f level outer cs') := by
  revert level outer
  refine h.strong fun cs cs' h ih level outer => ?_
  have hpast (next : BracketStep) (rest : List Char) (hrest : rest <:+ ['$']) :
      Alike (afterStep f cs'.length (next, rest)) (afterStep f cs'.length (next, rest)) := by
    cases next with
    | done m => exact .both m (.past hrest)
    | inside level outer =>
      rw [afterStep]
      split
      next hlt => exact ih rest rest hlt (.past hrest) level outer
      next => exact .failed _ _
  rw [readLevels_eq, readLevels_eq]
  cases h with
  | past h =>
    cases hcs : f.skip cs with
    | nil => exact .failed _ _
    | cons c rest =>
      have hskip : c :: rest <:+ ['$'] := hcs ▸ followed_self_iff.mp ((Followed.past h).skip f)
      have hrest : rest <:+ ['$'] := (List.suffix_cons c rest).trans hskip
      exact (alike_bracketStep f level outer c (.past hrest)).self_bind hpast
  | within =>
    refine ((Followed.within cs).skip f).split (.failed _ _) ?_ fun c rest rest' _ hrest => ?_
    · exact ((alike_bracketStep f level outer ')' followed_dollar).self_bind hpast).of_error _
    · refine (alike_bracketStep f level outer c hrest).bind_of_past ?_ hpast
      intro next rest rest' hrest
      cases next with
      | done m => exact .both m hrest
      | inside level outer =>
        simp only [afterStep]
        by_cases hlt : rest.length < cs.length
        · have hlt' : rest'.length < (cs ++ closing).length := by
            cases hrest <;> simp <;> omega
          rw [if_pos hlt, if_pos hlt']
          exact ih rest rest' hlt' hrest level outer
        · rw [if_neg hlt]
          split
          next hlt' =>
            -- the closing has been reached, since with it there is more left to read than without
            cases hrest with
            | within => simp at hlt'; omega
            | past hrest => exact (ih rest rest hlt' (.past hrest) level outer).of_error _
          next => exact .failed _ _

theorem alike_readBracket (h : Followed cs cs') : Alike (readBracket f cs) (readBracket f cs') := by
  obtain ⟨hlevel, hrest⟩ := followed_openLevel f h
  simp only [readBracket, hlevel]
  exact alike_readLevels f _ [] hrest

end Classes

/-! ## Tokens -/

section Tokens

variable {cs cs' : List Char} (f : Flags)

theorem followed_countDigits (h : Followed cs cs') :
    (countDigits f cs).1 = (countDigits f cs').1 ∧
      Followed (countDigits f cs).2 (countDigits f cs').2 := by
  refine h.strong fun cs cs' h ih => ?_
  unfold countDigits
  revert ih
  refine h.split (fun _ => ⟨rfl, followed_nil⟩) (fun _ => ⟨rfl, .within []⟩) ?_
  intro c rest rest' hboth hrest ih
  dsimp only
  split
  · have hlt : (f.skip rest').length < (c :: rest').length :=
      Nat.lt_succ_of_le (f.length_skip_le rest')
    obtain ⟨hdigits, hleft⟩ := ih _ _ hlt (hrest.skip f)
    exact ⟨congrArg (c :: ·) hdigits, hleft⟩
  · exact ⟨rfl, hboth⟩

theorem alike_readCount (h : Followed cs cs') : Alike (readCount f cs) (readCount f cs') := by
  obtain ⟨hdigits, hrest⟩ := followed_countDigits f h.dropBlank
  simp only [readCount, hdigits]
  split
  · exact .failed _ _
  · exact .both _ hrest.dropBlank

theorem alike_readMost (least : Nat) (h : Followed cs cs') :
    Alike (readMost f least cs) (readMost f least cs') := by
  have hmost {xs xs' : List Char} (h : Followed xs xs') :
      Alike (readCount f xs >>= fun x => .ok (some x.1, x.2))
        (readCount f xs' >>= fun x => .ok (some x.1, x.2)) :=
    (alike_readCount f h).bind fun most _ _ hrest => .both (some most) hrest
  refine h.split (.both _ followed_nil) (.both _ (.within [])) fun c rest rest' hboth hrest => ?_
  by_cases hc : c = ','
  · subst hc
    simp only [readMost]
    refine (hrest.skip f).split (hmost followed_nil) (hmost (.within []))
      fun c rest rest' hboth _ => ?_
    by_cases hbrace : c = '\x7d'
    · subst hbrace
      exact .both none hboth
    · simp (disch := simp [hbrace]) only
      exact hmost hboth
  · simp (disch := simp [hc]) only [readMost]
    exact .both _ hboth

theorem alike_endRepetition (least : Nat) (most : Option Nat) (h : Followed cs cs') :
    Alike (endRepetition f least most cs) (endRepetition f least most cs') := by
  refine h.uncons (.failed _ _) (fun honward => honward.of_error _) fun c rest rest' hrest => ?_
  by_cases hc : c = '\x7d'
  · subst hc
    simp only [endRepetition]
    split
    · exact .failed _ _
    · exact .both _ (hrest.skip f).dropLazy
  · simp (disch := simp [hc]) only [endRepetition]
    exact .failed _ _

theorem alike_readRepetition (h : Followed cs cs') :
    Alike (readRepetition f cs) (readRepetition f cs') := by
  refine (alike_readCount f (h.skip f)).bind fun least rest rest' hrest => ?_
  refine (alike_readMost f least hrest).bind fun most rest rest' hrest => ?_
  exact alike_endRepetition f least most hrest

theorem alike_readFlags (seen : List Flag) (value dangling : Bool) (h : Followed cs cs') :
    Alike (readFlags seen value dangling cs) (readFlags seen value dangling cs') := by
  revert seen value dangling
  refine h.strong fun cs cs' h ih seen value dangling => ?_
  revert ih
  refine h.uncons (fun _ => .failed _ _) (fun honward ih => (honward ih).of_error _) ?_
  intro c rest rest' hrest ih
  have hlater := ih rest rest' (Nat.lt_succ_self _) hrest
  simp only [readFlags]
  split
  · split
    · exact .failed _ _
    · exact .both _ hrest
  split
  · split
    · exact hlater seen false true
    · exact .failed _ _
  split
  · exact .failed _ _
  next flag _ =>
    split
    · exact .failed _ _
    · exact (hlater _ value false).bind fun _ _ _ hrest => .both _ hrest

theorem alike_readGroupName (h : Followed cs cs') :
    Alike (readGroupName cs) (readGroupName cs') := by
  have hsplit := alike_splitAt? '>' (by decide) h
  unfold readGroupName
  generalize splitAt? ['>'] cs = x, splitAt? ['>'] cs' = y at hsplit ⊢
  cases hsplit with
  | neither => exact .failed _ _
  | both name hrest =>
    cases name with
    | nil => exact .failed _ _
    | cons first more =>
      dsimp only
      split
      · exact .both _ hrest
      · exact .failed _ _

theorem alike_readNamed (h : Followed cs cs') : Alike (readNamed cs) (readNamed cs') :=
  (alike_readGroupName h).bind fun name _ _ hrest => .both (Token.openGroup [] (.named name)) hrest

theorem alike_readChanges (h : Followed cs cs') : Alike (readChanges cs) (readChanges cs') := by
  refine (alike_readFlags [] true false h).bind fun changes rest rest' hrest => ?_
  dsimp only
  split
  · exact .both _ hrest
  split
  · exact .failed _ _
  · exact .both _ hrest

theorem alike_readGroup (h : Followed cs cs') : Alike (readGroup f cs) (readGroup f cs') := by
  unfold readGroup
  refine (h.skip f).split (.both _ followed_nil) (.both _ (.within []))
    fun c rest rest' hboth hrest => ?_
  by_cases hc : c = '?'
  · subst hc
    refine hrest.split (alike_readChanges followed_nil) (alike_readChanges (.within []))
      fun c rest rest' hboth hrest => ?_
    by_cases hangle : c = '<'
    · subst hangle
      exact alike_readNamed hrest
    by_cases hletter : c = 'P'
    · subst hletter
      have hchanges := alike_readChanges hboth
      revert hchanges
      refine hrest.split id id fun c rest rest' _ hrest hchanges => ?_
      by_cases hangle : c = '<'
      · subst hangle
        exact alike_readNamed hrest
      · simp (disch := simp [hangle]) only
        exact hchanges
    · simp (disch := simp [hangle, hletter]) only
      exact alike_readChanges hboth
  · simp (disch := simp [hc]) only
    exact .both _ hboth

/-- A token is read off the pattern alone as it is read with the closing after it. -/
theorem alike_readToken (c : Char) (h : Followed cs cs') :
    Alike (readToken f c cs) (readToken f c cs') := by
  unfold readToken
  split
  · exact alike_readGroup f h
  · exact .both _ h
  · exact .both _ h
  · exact .both _ h.dropLazy
  · exact .both _ h.dropLazy
  · exact .both _ h.dropLazy
  · exact alike_readRepetition f h
  · exact (alike_readBracket f h).bind fun m _ _ hrest => .both _ hrest
  · refine (alike_readEscape f h).bind fun primitive rest rest' hrest => ?_
    exact alike_bind _ fun p => .both _ hrest
  · exact alike_bind _ fun set => .both _ h
  · exact .both _ h
  · exact .both _ h
  · exact alike_bind _ fun set => .both _ h

end Tokens

end LayoutTrail.Pattern
