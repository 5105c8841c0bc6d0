import LayoutTrail.Search.Step
import LayoutTrail.Proofs.Pattern.Matching
import LayoutTrail.Proofs.Pattern.Wrapping

/-!
# Patterns between anchors

The pattern of a step is read from the middle of a longer text: an anchor, an opened group, the
pattern as it is written, and `closing`.  Token by token that reading does what reading the pattern
alone does, with one frame more around it.  So it gives the pattern between two anchors, and the
step accepts the texts that the pattern matches as a whole.

There are two ways out.  A pattern that closes a group which it has not opened closes the group
around it, and need not be a pattern by itself.  A pattern that ends in a comment hides `closing`
and is refused.
-/

namespace LayoutTrail.Pattern

/-! ## Reading with one frame more -/

/-- What stands around a group. -/
abbrev Surrounding := Frame × Flags × Bool

/-- The state inside one more group. -/
def State.inside (st : State) (around : Surrounding) : State :=
  { st with outer := st.outer ++ [around] }

/-- What is done after a token, when `n` characters were left before it. -/
def State.afterToken (st : State) (n : Nat) : Token × List Char → Except Fault Piece
  | (token, rest) =>
    st.push token >>= fun st => if rest.length < n then readTokens st rest else .error .malformed

section Run

variable {st : State} {cs : List Char} {around : Surrounding}

theorem readTokens_eq (st : State) (cs : List Char) :
    readTokens st cs =
      match st.flags.skip cs with
      | [] => st.finish
      | c :: rest => readToken st.flags c rest >>= st.afterToken cs.length := by
  rw [readTokens]
  cases st.flags.skip cs with
  | nil => rfl
  | cons c rest =>
    rcases htoken : readToken st.flags c rest with e | ⟨token, rest'⟩
    · simp only [htoken]
      rfl
    · simp only [htoken]
      change _ = st.afterToken cs.length (token, rest')
      cases hpush : st.push token <;> simp only [hpush, State.afterToken] <;> rfl

theorem State.afterToken_of_error {n : Nat} {token : Token} {e : Fault}
    (h : st.push token = .error e) : st.afterToken n (token, cs) = .error e := by
  rw [afterToken, h]
  rfl

theorem State.afterToken_of_ok {st' : State} {n : Nat} {token : Token}
    (h : st.push token = .ok st') : st.afterToken n (token, cs) =
      if cs.length < n then readTokens st' cs else .error .malformed := by
  rw [afterToken, h]
  rfl

/-- Only a parenthesis that closes the group around it sees what stands around a group. -/
theorem State.push_inside (around : Surrounding) {token : Token}
    (h : token = .closeGroup → st.outer ≠ []) :
    (st.inside around).push token = (st.push token).map (·.inside around) := by
  cases token with
  | atom p height => rfl
  | directive changes => rfl
  | openGroup changes kind =>
    cases hname : kind.name?.any st.names.contains <;> simp only [push, inside, hname] <;> rfl
  | closeGroup =>
    obtain ⟨flags, frame, outer, names⟩ := st
    cases outer with
    | nil => exact absurd rfl (h rfl)
    | cons o outer => rfl
  | bar => rfl
  | repeated least most =>
    simp only [push, inside]
    split
    · split <;> rfl
    · rfl

theorem State.finish_inside (st : State) (around : Surrounding) :
    (st.inside around).finish = .error .malformed := by
  simp [finish, inside]

theorem skip_nil (f : Flags) : f.skip [] = [] :=
  List.length_eq_zero_iff.mp (Nat.le_zero.mp (f.length_skip_le []))

/-- Behind the parenthesis of the closing no group is closed. -/
theorem readTokens_inside_of_suffix (st : State) (around : Surrounding) (h : cs <:+ ['$']) :
    ∃ e, readTokens (st.inside around) cs = .error e := by
  have hnil (st : State) : readTokens (st.inside around) [] = .error .malformed := by
    rw [readTokens_eq, skip_nil]
    exact st.finish_inside around
  rcases List.suffix_cons_iff.mp h with rfl | h
  · refine ⟨.malformed, ?_⟩
    rw [readTokens_eq, skip_dollar]
    exact hnil { st with frame := st.frame.add ⟨.look (st.inside around).flags.dollar, 0, true⟩ }
  · rw [List.suffix_nil.mp h]
    exact ⟨_, hnil st⟩

/-- Some token of the rest closes a group that the pattern has not opened. -/
inductive ClosesUnopened : State → List Char → Prop
  | here {st : State} {c : Char} {cs rest rest' : List Char} (hskip : st.flags.skip cs = c :: rest)
    (htoken : readToken st.flags c rest = .ok (.closeGroup, rest')) (houter : st.outer = []) :
    ClosesUnopened st cs
  | later {st st' : State} {c : Char} {cs rest rest' : List Char} {token : Token}
    (hskip : st.flags.skip cs = c :: rest) (htoken : readToken st.flags c rest = .ok (token, rest'))
    (hpush : st.push token = .ok st') (h : ClosesUnopened st' rest') : ClosesUnopened st cs

theorem readTokens_of_closesUnopened (h : ClosesUnopened st cs) :
    ∃ e, readTokens st cs = .error e := by
  induction h with
  | @here st c cs rest rest' hskip htoken houter =>
    have hpush : st.push .closeGroup = .error .malformed := by rw [State.push, houter]
    refine ⟨.malformed, ?_⟩
    simp only [readTokens_eq, hskip, htoken]
    exact State.afterToken_of_error hpush
  | @later st st' c cs rest rest' token hskip htoken hpush h ih =>
    simp only [readTokens_eq, hskip, htoken]
    change ∃ e, st.afterToken cs.length (token, rest') = .error e
    rw [State.afterToken_of_ok hpush]
    split
    · exact ih
    · exact ⟨_, rfl⟩

/-- The anchors around a pattern, and the group that the anchors open. -/
def anchoredPiece (p : Piece) : Piece :=
  .seqOf [⟨.look .textStart, 0, true⟩, ⟨p.pattern, p.height + 1, true⟩, ⟨.look .textEnd, 0, true⟩]

/-- What stands around a pattern between anchors. -/
def anchors (flags : Flags) : Surrounding :=
  ({ current := [⟨.look .textStart, 0, true⟩] }, flags, false)

/-- What three readings give: of a text alone, of the text inside the group of the anchors with
`closing` after it, and of the text with `closing` after it. -/
inductive Pasted : Except Fault Piece → Except Fault Piece → Except Fault Piece → Prop
  | refused (e e' : Fault) (z : Except Fault Piece) : Pasted (.error e) (.error e') z
  | anchored (p : Piece) (e : Fault) : Pasted (.ok p) (.ok (anchoredPiece p)) (.error e)
  | hidden (p : Piece) (e : Fault) : Pasted (.ok p) (.error e) (.ok p)

theorem Pasted.of_error {x y z : Except Fault Piece} (hx : ∃ e, x = .error e)
    (hy : ∃ e, y = .error e) : Pasted x y z := by
  obtain ⟨e, rfl⟩ := hx
  obtain ⟨e', rfl⟩ := hy
  exact .refused e e' z

/-- Where the text with `closing` is read as the text alone, the closing has been hidden. -/
theorem Pasted.of_same {x y : Except Fault Piece} (hy : ∃ e, y = .error e) : Pasted x y x := by
  obtain ⟨e', rfl⟩ := hy
  cases x with
  | error e => exact .refused e e' _
  | ok p => exact .hidden p e'

/-- The closing ends the group of the anchors and adds the second anchor. -/
theorem afterToken_closing {flags : Flags} (hmultiLine : flags.multiLine = false) {n : Nat}
    (hn : ['$'].length < n) (houter : st.outer = []) :
    (st.inside (anchors flags)).afterToken n (.closeGroup, ['$']) =
      .ok (anchoredPiece st.frame.whole) := by
  have hpush : (st.inside (anchors flags)).push .closeGroup =
      .ok { st with
        flags := flags
        frame := (anchors flags).1.add
          ⟨st.frame.whole.pattern, st.frame.whole.height + 1, true⟩ } := by
    simp [State.push, State.inside, houter, anchors]
  have hdollar : readToken flags '$' [] = .ok (.atom (.look .textEnd) 0, []) := by
    simp [readToken, Flags.dollar, hmultiLine]
  rw [State.afterToken_of_ok hpush, if_pos hn]
  simp only [readTokens_eq, skip_dollar, hdollar]
  change State.afterToken _ 1 (.atom (.look .textEnd) 0, []) = _
  rw [State.afterToken_of_ok rfl, if_pos (by simp), readTokens_eq, skip_nil]
  simp only [State.finish, houter]
  rfl

theorem afterToken_inside_of_suffix {n : Nat} {token : Token}
    (h : token = .closeGroup → st.outer ≠ []) (hcs : cs <:+ ['$']) :
    ∃ e, (st.inside around).afterToken n (token, cs) = .error e := by
  have hinside := State.push_inside around h
  cases hpush : st.push token with
  | error e =>
    rw [hpush] at hinside
    exact ⟨e, State.afterToken_of_error hinside⟩
  | ok st' =>
    rw [hpush] at hinside
    rw [State.afterToken_of_ok hinside]
    split
    · exact readTokens_inside_of_suffix st' around hcs
    · exact ⟨_, rfl⟩

/-- The text is at its end and the closing is next. -/
theorem pasted_closing {flags : Flags} (hmultiLine : flags.multiLine = false) {n : Nat}
    (hn : ['$'].length < n) :
    Pasted st.finish ((st.inside (anchors flags)).afterToken n (.closeGroup, ['$']))
      (st.afterToken n (.closeGroup, ['$'])) := by
  by_cases houter : st.outer = []
  · have hpush : st.push .closeGroup = .error .malformed := by rw [State.push, houter]
    rw [afterToken_closing hmultiLine hn houter, State.afterToken_of_error hpush, State.finish,
      houter]
    exact .anchored _ _
  · have hfinish : st.finish = .error .malformed := by
      rw [State.finish, if_neg]
      simpa using houter
    exact .of_error ⟨_, hfinish⟩
      (afterToken_inside_of_suffix (fun _ => houter) (List.suffix_refl _))

/-- Reading on after a token that both readings have in common. -/
theorem pasted_afterToken {st' : State} {token : Token} {rest rest' : List Char}
    (hpush : st.push token = .ok st')
    (hinside : (st.inside around).push token = .ok (st'.inside around))
    (hrest : Followed rest rest')
    (ih : rest.length < cs.length → ClosesUnopened st' rest ∨
      Pasted (readTokens st' rest) (readTokens (st'.inside around) (rest ++ closing))
        (readTokens st' (rest ++ closing))) :
    ClosesUnopened st' rest ∨
      Pasted (st.afterToken cs.length (token, rest))
        ((st.inside around).afterToken (cs ++ closing).length (token, rest'))
        (st.afterToken (cs ++ closing).length (token, rest')) := by
  simp only [State.afterToken_of_ok hpush, State.afterToken_of_ok hinside]
  cases hrest with
  | within =>
    have hiff : (rest ++ closing).length < (cs ++ closing).length ↔ rest.length < cs.length := by
      simp
    simp only [hiff]
    split
    next hlt => exact ih hlt
    next => exact .inr (.refused _ _ _)
  | past hpast =>
    have hlt : rest.length < (cs ++ closing).length := by
      have := hpast.length_le
      simp [closing] at this ⊢
      omega
    have hrefused := readTokens_inside_of_suffix st' around hpast
    simp only [if_pos hlt]
    right
    split
    · exact .of_same hrefused
    · exact .of_error ⟨_, rfl⟩ hrefused

theorem bind_ne_closeGroup {α : Type} {x : Except Fault α}
    {next : α → Except Fault (Token × List Char)} (h : ∀ a, next a ≠ .ok (.closeGroup, cs)) :
    x >>= next ≠ .ok (.closeGroup, cs) := by
  cases x with
  | error e => nofun
  | ok a => exact h a

/-- Only a closing parenthesis closes a group. -/
theorem readToken_ne_closeGroup {f : Flags} {c : Char} {rest : List Char} (hc : c ≠ ')') :
    readToken f c cs ≠ .ok (.closeGroup, rest) := by
  unfold readToken
  split
  · unfold readGroup
    split
    · exact bind_ne_closeGroup fun _ => nofun
    · exact bind_ne_closeGroup fun _ => nofun
    · refine bind_ne_closeGroup fun changes => ?_
      split
      split
      · nofun
      · split <;> nofun
    · nofun
  · exact absurd rfl hc
  · nofun
  · nofun
  · nofun
  · nofun
  · refine bind_ne_closeGroup fun least => bind_ne_closeGroup fun most => ?_
    split
    · unfold endRepetition
      split
      · split <;> nofun
      · nofun
  · exact bind_ne_closeGroup fun _ => nofun
  · exact bind_ne_closeGroup fun _ => bind_ne_closeGroup fun _ => nofun
  · exact bind_ne_closeGroup fun _ => nofun
  · nofun
  · nofun
  · exact bind_ne_closeGroup fun _ => nofun

/-- Reading a text inside the group of the anchors, with `closing` after it, does what reading the
text alone does, token by token and up to the closing. -/
theorem pasted_readTokens {flags : Flags} (hmultiLine : flags.multiLine = false) (st : State)
    (cs : List Char) :
    ClosesUnopened st cs ∨
      Pasted (readTokens st cs) (readTokens (st.inside (anchors flags)) (cs ++ closing))
        (readTokens st (cs ++ closing)) := by
  induction hn : cs.length using Nat.strongRecOn generalizing st cs with
  | ind n ih =>
    rw [readTokens_eq st cs, readTokens_eq (st.inside (anchors flags)) (cs ++ closing),
      readTokens_eq st (cs ++ closing)]
    change _ ∨ Pasted _ (match st.flags.skip (cs ++ closing) with
      | [] => (st.inside (anchors flags)).finish
      | c :: rest => readToken st.flags c rest >>=
        (st.inside (anchors flags)).afterToken (cs ++ closing).length) _
    rcases skip_append_closing_cases st.flags cs with ⟨hnone, hhidden⟩ | ⟨hnone, hclosing⟩ |
      ⟨c, rest, rest', hskip, hskip', hrest⟩
    · right
      rw [hnone, hhidden]
      exact .of_same ⟨_, st.finish_inside _⟩
    · right
      rw [hnone, hclosing]
      have hlt : ['$'].length < (cs ++ closing).length := by simp [closing]
      exact pasted_closing hmultiLine hlt
    · rw [hskip, hskip']
      have htoken := alike_readToken st.flags c hrest
      dsimp only
      generalize hx : readToken st.flags c rest = x, hy : readToken st.flags c rest' = y at htoken ⊢
      cases htoken with
      | failed e e' => exact .inr (.refused e e' _)
      | @both token left left' hleft =>
        by_cases hclose : token = .closeGroup ∧ st.outer = []
        · exact .inl (.here hskip (hclose.1 ▸ hx) hclose.2)
        · have hinside := State.push_inside (anchors flags)
            fun htoken houter => hclose ⟨htoken, houter⟩
          cases hpush : st.push token with
          | error e =>
            rw [hpush] at hinside
            exact .inr (.of_error ⟨e, State.afterToken_of_error hpush⟩
              ⟨e, State.afterToken_of_error hinside⟩)
          | ok st' =>
            rw [hpush] at hinside
            have hrest := pasted_afterToken hpush hinside hleft fun hlt =>
              ih left.length (hn ▸ hlt) st' left rfl
            exact hrest.imp_left (.later hskip hx hpush)
      | @overrun e token left hleft =>
        -- only a parenthesis could close the group of the anchors, and none is read past the end
        have hc : c ≠ ')' := by
          rintro rfl
          cases hx
        have htoken : token = .closeGroup → st.outer ≠ [] := by
          rintro rfl
          exact absurd hy (readToken_ne_closeGroup hc)
        exact .inr (.of_error ⟨e, rfl⟩ (afterToken_inside_of_suffix htoken hleft))

end Run

/-! ## Reading the anchored text -/

section Reading

variable {ignoreCase : Bool} {text : String}

/-- What the tokens of a text make, whether it is too deep or too large or not. -/
abbrev readPiece (ignoreCase : Bool) (text : String) : Except Fault Piece :=
  readTokens { flags := { ignoreCase := ignoreCase } } text.toList

/-- What a text is as a pattern by itself, no matter how deep it nests and how large its automaton
is. -/
def Denotes (ignoreCase : Bool) (text : String) (p : Pattern) : Prop :=
  ∃ piece, readPiece ignoreCase text = .ok piece ∧ piece.pattern = p

/-- With the closing after it, the text is a pattern still: the closing stands in a comment. -/
def HidesClosing (ignoreCase : Bool) (text : String) : Prop :=
  ∃ p, Denotes ignoreCase (text ++ ")$") p

/-- The text closes a group that it has not opened. -/
def ClosesAnchors (ignoreCase : Bool) (text : String) : Prop :=
  ClosesUnopened { flags := { ignoreCase := ignoreCase } } text.toList

/-- A pattern that is neither too deep nor too large. -/
structure Piece.Small (p : Piece) : Prop where
  height_le : p.height ≤ maxHeight
  isTooLarge_eq : isTooLarge p.pattern = false

theorem read_eq_ok_iff {flags : Flags} {p : Pattern} :
    read flags text = .ok p ↔
      ∃ piece, readTokens { flags := flags } text.toList = .ok piece ∧ piece.Small ∧
        piece.pattern = p := by
  unfold read
  cases readTokens { flags := flags } text.toList with
  | error e =>
    refine iff_of_false nofun ?_
    rintro ⟨piece, hpiece, _⟩
    cases hpiece
  | ok piece =>
    change (if _ then _ else _) = _ ↔ _
    constructor
    · split
      · nofun
      next hheight =>
        split
        · nofun
        next hlarge =>
          intro h
          exact ⟨piece, rfl, ⟨Nat.le_of_not_lt hheight, Bool.not_eq_true _ ▸ hlarge⟩,
            Except.ok.inj h⟩
    · rintro ⟨piece', hpiece, ⟨hheight, hlarge⟩, rfl⟩
      obtain rfl := Except.ok.inj hpiece
      rw [if_neg (Nat.not_lt.mpr hheight), hlarge]
      rfl

theorem not_denotes_of_isNone (h : (readPiece ignoreCase text).toOption.isNone = true) :
    ¬∃ p, Denotes ignoreCase text p := by
  rintro ⟨p, piece, hpiece, _⟩
  rw [hpiece] at h
  cases h

theorem denotes_of_read {p : Pattern} (h : read { ignoreCase := ignoreCase } text = .ok p) :
    Denotes ignoreCase text p := by
  obtain ⟨piece, hpiece, _, hp⟩ := read_eq_ok_iff.mp h
  exact ⟨piece, hpiece, hp⟩

/-- The anchored text opens the group of the anchors and goes on with the text. -/
theorem readPiece_anchoredText (ignoreCase : Bool) (text : String) :
    readPiece ignoreCase (anchoredText text) =
      readTokens (State.inside { flags := { ignoreCase := ignoreCase } }
        (anchors { ignoreCase := ignoreCase })) (text.toList ++ closing) := by
  have htext : (anchoredText text).toList = '^' :: '(' :: '?' :: ':' :: (text.toList ++ closing) := by
    simp [anchoredText, closing]
  rw [readPiece, htext, readTokens_eq]
  change State.afterToken _ _ (.atom (.look .textStart) 0, _) = _
  rw [State.afterToken_of_ok rfl, if_pos (by simp), readTokens_eq]
  change State.afterToken _ _ (.openGroup [] .plain, _) = _
  rw [State.afterToken_of_ok rfl, if_pos (by simp only [List.length_cons]; omega)]
  rfl

theorem pasted_text (ignoreCase : Bool) (text : String) :
    ClosesAnchors ignoreCase text ∨ Pasted (readPiece ignoreCase text)
      (readPiece ignoreCase (anchoredText text)) (readPiece ignoreCase (text ++ ")$")) := by
  have htext : (text ++ ")$").toList = text.toList ++ closing := by simp [closing]
  rw [readPiece_anchoredText, readPiece, readPiece, htext]
  exact pasted_readTokens rfl { flags := { ignoreCase := ignoreCase } } text.toList

theorem pasted_of_ok {piece : Piece} (hpiece : readPiece ignoreCase text = .ok piece) :
    Pasted (.ok piece) (readPiece ignoreCase (anchoredText text))
      (readPiece ignoreCase (text ++ ")$")) := by
  rcases pasted_text ignoreCase text with hcloses | hpasted
  · obtain ⟨e, he⟩ := readTokens_of_closesUnopened hcloses
    rw [readPiece, he] at hpiece
    cases hpiece
  · rwa [hpiece] at hpasted

/-- The pattern by itself stands between the anchors. -/
theorem eq_anchoredPiece {piece piece' : Piece} (hpiece : readPiece ignoreCase text = .ok piece)
    (hpiece' : readPiece ignoreCase (anchoredText text) = .ok piece') :
    piece' = anchoredPiece piece := by
  have hpasted := pasted_of_ok hpiece
  rw [hpiece'] at hpasted
  generalize readPiece ignoreCase (text ++ ")$") = z at hpasted
  cases hpasted with
  | anchored => rfl

/-- Between anchors a pattern stays one, unless it hides the closing anchor. -/
theorem exists_small_anchoredText_iff {piece : Piece}
    (hpiece : readPiece ignoreCase text = .ok piece) :
    (∃ piece', readPiece ignoreCase (anchoredText text) = .ok piece' ∧ piece'.Small) ↔
      ¬HidesClosing ignoreCase text ∧ (anchoredPiece piece).Small := by
  have hpasted := pasted_of_ok hpiece
  unfold HidesClosing Denotes
  generalize readPiece ignoreCase (anchoredText text) = y, readPiece ignoreCase (text ++ ")$") = z
    at hpasted ⊢
  cases hpasted with
  | anchored _ e =>
    constructor
    · rintro ⟨piece', hpiece', hsmall⟩
      obtain rfl := Except.ok.inj hpiece'
      exact ⟨nofun, hsmall⟩
    · rintro ⟨_, hsmall⟩
      exact ⟨_, rfl, hsmall⟩
  | hidden _ e =>
    refine iff_of_false nofun ?_
    rintro ⟨hgoes, _⟩
    exact hgoes ⟨_, piece, rfl, rfl⟩

/-- What becomes a pattern between the anchors is one by itself or closes their group. -/
theorem denotes_or_closesAnchors {piece : Piece}
    (hpiece : readPiece ignoreCase (anchoredText text) = .ok piece) :
    (∃ p, Denotes ignoreCase text p) ∨ ClosesAnchors ignoreCase text := by
  unfold Denotes
  rcases pasted_text ignoreCase text with hcloses | hpasted
  · exact .inr hcloses
  · rw [hpiece] at hpasted
    generalize readPiece ignoreCase text = x, readPiece ignoreCase (text ++ ")$") = z at hpasted ⊢
    cases hpasted with
    | anchored piece e => exact .inl ⟨piece.pattern, piece, rfl, rfl⟩

end Reading

/-! ## What the anchors do to a match -/

section Matches

variable {text : List Char} {i : Nat}

theorem holds_textStart_iff (hi : i ≤ text.length) :
    Look.holds .textStart (around text i).1 (around text i).2 = true ↔ i = 0 := by
  cases i with
  | zero => simp [Look.holds, around]
  | succ i => simp [Look.holds, around, Nat.not_le.mpr hi]

theorem holds_textEnd_iff :
    Look.holds .textEnd (around text i).1 (around text i).2 = true ↔ text.length ≤ i := by
  simp [Look.holds, around]

/-- A pattern between anchors is found where the pattern matches the whole text. -/
theorem occurs_anchoredPiece_iff (p : Piece) (text : List Char) :
    (anchoredPiece p).pattern.Occurs text ↔ p.pattern.MatchesWhole text := by
  constructor
  · rintro ⟨i, j, hi, m, ⟨rfl, hstart⟩, m', hspans, rfl, hend⟩
    obtain rfl := (holds_textStart_iff hi).mp hstart
    have hle := spans_le_length hspans hi
    have hge := holds_textEnd_iff.mp hend
    obtain rfl : m' = text.length := by omega
    exact hspans
  · intro hwhole
    exact ⟨0, text.length, Nat.zero_le _, 0, ⟨rfl, (holds_textStart_iff (Nat.zero_le _)).mpr rfl⟩,
      text.length, hwhole, rfl, holds_textEnd_iff.mpr (Nat.le_refl _)⟩

end Matches

end LayoutTrail.Pattern
