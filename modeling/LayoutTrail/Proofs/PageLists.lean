import LayoutTrail.Report.PageSelection
import Mathlib.Data.List.Induction
import Mathlib.Data.List.Sort

/-!
# What a list of pages selects

Between its commas a list of pages has numbers and ranges, a range being what has a hyphen.  If all the
numbers are numbers, what is read selects a page if and only if one of the parts names it, whether it
is kept as a range or as the pages in order.  Otherwise the error names the leftmost that is none.
-/

namespace LayoutTrail.PageSelection

section Digits

variable {cs : List Char} {n : Nat}

theorem exists_digitChar_of_isDigit {c : Char} (h : c.isDigit) : ∃ d < 10, c = Nat.digitChar d := by
  obtain ⟨hlow, hhigh⟩ := Char.isDigit_iff_toNat.mp h
  have hzero : '0'.toNat = 48 := rfl
  have hnine : '9'.toNat = 57 := rfl
  have hd : c.toNat - 48 < 10 := by omega
  refine ⟨c.toNat - 48, hd, Char.toNat_inj.mp ?_⟩
  rw [Nat.toNat_digitChar_of_lt_ten hd]
  omega

/-- Digits are those of the number they spell, behind some zeros. -/
theorem exists_eq_replicate_append_toDigits (hne : cs ≠ []) (hdigits : ∀ c ∈ cs, c.isDigit) :
    ∃ zeros, cs = List.replicate zeros '0' ++ Nat.toDigits 10 (Nat.ofDigitChars 10 cs 0) := by
  -- on the last digit, since it is the last that is added to the number
  induction cs using List.reverseRecOn with
  | nil => exact absurd rfl hne
  | append_singleton cs c ih =>
    obtain ⟨d, hd, rfl⟩ := exists_digitChar_of_isDigit (hdigits c (by simp))
    have hvalue : Nat.ofDigitChars 10 (cs ++ [Nat.digitChar d]) 0 =
        10 * Nat.ofDigitChars 10 cs 0 + d := by
      rw [Nat.ofDigitChars_append, Nat.ofDigitChars_cons_digitChar_of_lt_ten hd,
        Nat.ofDigitChars_nil]
    rw [hvalue, ← Nat.toDigits_of_lt_base hd]
    by_cases hcs : cs = []
    · refine ⟨0, ?_⟩
      rw [hcs, Nat.ofDigitChars_nil, Nat.mul_zero, Nat.zero_add]
      rfl
    · obtain ⟨zeros, h⟩ := ih hcs fun c hc => hdigits c (List.mem_append_left _ hc)
      by_cases hzero : Nat.ofDigitChars 10 cs 0 = 0
      · rw [hzero, Nat.toDigits_zero] at h
        refine ⟨zeros + 1, ?_⟩
        rw [hzero, Nat.mul_zero, Nat.zero_add, h, List.replicate_succ']
      · refine ⟨zeros, ?_⟩
        rw [← Nat.toDigits_append_toDigits (by decide) (Nat.pos_of_ne_zero hzero) hd,
          ← List.append_assoc, ← h]

theorem isDigit_of_mem_replicate_append_toDigits {c : Char} {zeros : Nat}
    (h : c ∈ List.replicate zeros '0' ++ Nat.toDigits 10 n) : c.isDigit := by
  rcases List.mem_append.mp h with hc | hc
  · obtain ⟨_, rfl⟩ := List.mem_replicate.mp hc
    rfl
  · exact Nat.isDigit_of_mem_toDigits (by decide) (by decide) hc

theorem digitsValue?_eq_some_iff : digitsValue? cs = some n ↔
    ∃ zeros, cs = List.replicate zeros '0' ++ Nat.toDigits 10 n := by
  have hvalue : cs.foldl (fun n c => 10 * n + (c.toNat - '0'.toNat)) 0 = Nat.ofDigitChars 10 cs 0 :=
    Nat.ofDigitChars_eq_foldl.symm
  rw [digitsValue?, hvalue]
  constructor
  · intro h
    split at h
    · cases h
    next hcs =>
      simp only [Bool.or_eq_true, List.isEmpty_iff, Bool.not_eq_true', not_or, Bool.not_eq_false,
        List.all_eq_true] at hcs
      obtain rfl := Option.some.inj h
      exact exists_eq_replicate_append_toDigits hcs.1 hcs.2
  · rintro ⟨zeros, rfl⟩
    have hdigits : ¬ ((List.replicate zeros '0' ++ Nat.toDigits 10 n).isEmpty ||
        !(List.replicate zeros '0' ++ Nat.toDigits 10 n).all Char.isDigit) := by
      simp only [Bool.or_eq_true, List.isEmpty_iff, List.append_eq_nil_iff, Nat.toDigits_ne_nil,
        and_false, false_or, Bool.not_eq_true', Bool.not_eq_false, List.all_eq_true]
      exact fun c hc => isDigit_of_mem_replicate_append_toDigits hc
    rw [if_neg hdigits, Nat.ofDigitChars_append, Nat.ofDigitChars_replicate_zero, Nat.mul_zero,
      Nat.ofDigitChars_ten_toDigits]

end Digits

/-- A text spells a page number: without the white space around it, it is the decimal digits of the
number, behind any zeros and at most one plus sign.  The number has at most 64 bits. -/
def Spells (cs : List Char) (n : Nat) : Prop :=
  n < UInt64.size ∧ ∃ sign zeros, (sign = [] ∨ sign = ['+']) ∧
    Text.trim cs = sign ++ (List.replicate zeros '0' ++ Nat.toDigits 10 n)

/-- A text that spells a page number. -/
def IsNumber (cs : List Char) : Prop := ∃ n, Spells cs n

/-- The error for a text that spells no page number. -/
def badNumber (cs : List Char) : Error :=
  .pageRange ("invalid page number " ++ Text.quoted (String.ofList (Text.trim cs)))

/-- What stands behind a plus sign, if there is one. -/
def unsigned : List Char → List Char
  | '+' :: rest => rest
  | rest => rest

section Numbers

variable {cs : List Char} {n m : Nat}

theorem eq_or_eq_cons_unsigned (cs : List Char) : cs = unsigned cs ∨ cs = '+' :: unsigned cs := by
  unfold unsigned
  split
  next => exact Or.inr rfl
  next => exact Or.inl rfl

theorem unsigned_of_isDigit (h : ∀ c ∈ cs, c.isDigit) : unsigned cs = cs := by
  rcases eq_or_eq_cons_unsigned cs with hcs | hcs
  · exact hcs.symm
  · have hplus : '+' ∈ cs := by
      rw [hcs]
      exact List.mem_cons_self
    exact absurd (h '+' hplus) (by decide)

theorem readPage_eq (cs : List Char) : readPage cs =
    match digitsValue? (unsigned (Text.trim cs)) with
    | some n => if n ≤ maxPage then .ok n else .error (badNumber cs)
    | none => .error (badNumber cs) := rfl

theorem le_maxPage_iff : n ≤ maxPage ↔ n < UInt64.size := by
  unfold maxPage
  have hsize : 0 < UInt64.size := by decide
  omega

theorem readPage_of_spells (h : Spells cs n) : readPage cs = .ok n := by
  obtain ⟨hfits, sign, zeros, hsign, htrim⟩ := h
  have hunsigned : unsigned (Text.trim cs) = List.replicate zeros '0' ++ Nat.toDigits 10 n := by
    rw [htrim]
    rcases hsign with rfl | rfl
    · exact unsigned_of_isDigit fun c hc => isDigit_of_mem_replicate_append_toDigits hc
    · rfl
  rw [readPage_eq, digitsValue?_eq_some_iff.mpr ⟨zeros, hunsigned⟩]
  exact if_pos (le_maxPage_iff.mpr hfits)

/-- A text either spells a page number, and is read as this number, or is reported. -/
theorem readPage_cases (cs : List Char) :
    (∃ n, Spells cs n ∧ readPage cs = .ok n) ∨ readPage cs = .error (badNumber cs) := by
  cases hvalue : digitsValue? (unsigned (Text.trim cs)) with
  | none => exact Or.inr (by rw [readPage_eq, hvalue])
  | some n =>
    by_cases hmax : n ≤ maxPage
    · obtain ⟨zeros, hdigits⟩ := digitsValue?_eq_some_iff.mp hvalue
      have hspells : Spells cs n := by
        refine ⟨le_maxPage_iff.mp hmax, ?_⟩
        rcases eq_or_eq_cons_unsigned (Text.trim cs) with htrim | htrim
        · exact ⟨[], zeros, Or.inl rfl, htrim.trans hdigits⟩
        · exact ⟨['+'], zeros, Or.inr rfl, by rw [htrim, hdigits]; rfl⟩
      exact Or.inl ⟨n, hspells, readPage_of_spells hspells⟩
    · refine Or.inr ?_
      rw [readPage_eq, hvalue]
      exact if_neg hmax

theorem not_isNumber_of_readPage {e : Error} (h : readPage cs = .error e) : ¬ IsNumber cs := by
  rintro ⟨n, hn⟩
  rw [readPage_of_spells hn] at h
  cases h

theorem Spells.unique (h : Spells cs n) (h' : Spells cs m) : n = m :=
  Except.ok.inj ((readPage_of_spells h).symm.trans (readPage_of_spells h'))

end Numbers

/-- What stands between two commas: a number, or two with a hyphen between them. -/
inductive Part
  | number (cs : List Char)
  | range (first last : List Char)

namespace Part

variable {p : Part} {cs first last : List Char}

/-- A part as it is written. -/
def text : Part → List Char
  | number cs => cs
  | range first last => first ++ '-' :: last

/-- The texts that have to be numbers, from left to right. -/
def numbers : Part → List (List Char)
  | number cs => [cs]
  | range first last => [first, last]

/-- A part has no comma, and what makes it a range is its first hyphen. -/
def Plain (p : Part) : Prop :=
  ',' ∉ p.text ∧ match p with
    | number cs => '-' ∉ cs
    | range first _ => '-' ∉ first

/-- The pages that a part names: of a range those from its first number to its last, none if these are
in the wrong order. -/
def Names : Part → Nat → Prop
  | number cs, n => Spells cs n
  | range first last, n => ∃ a b, Spells first a ∧ Spells last b ∧ a ≤ n ∧ n ≤ b

/-- The part with a text. -/
def ofText (cs : List Char) : Part :=
  match splitHyphen? cs with
  | none => number cs
  | some (first, last) => range first last

theorem splitHyphen?_of_notMem (h : '-' ∉ cs) : splitHyphen? cs = none := by
  have hall : ∀ c ∈ cs, (c != '-') = true := fun c hc =>
    bne_iff_ne.mpr fun he => h (he ▸ hc)
  have htake : cs.takeWhile (· != '-') = cs := by
    rw [← List.append_nil cs, List.takeWhile_append_of_pos hall, List.takeWhile_nil]
  simp only [splitHyphen?, htake, List.drop_length]

theorem splitHyphen?_append (h : '-' ∉ first) (last : List Char) :
    splitHyphen? (first ++ '-' :: last) = some (first, last) := by
  have hall : ∀ c ∈ first, (c != '-') = true := fun c hc =>
    bne_iff_ne.mpr fun he => h (he ▸ hc)
  have htake : (first ++ '-' :: last).takeWhile (· != '-') = first := by
    rw [List.takeWhile_append_of_pos hall, List.takeWhile_cons_of_neg (by decide), List.append_nil]
  simp only [splitHyphen?, htake, List.drop_left]

theorem ofText_text (h : p.Plain) : ofText p.text = p := by
  obtain ⟨_, hhyphen⟩ := h
  cases p with
  | number cs => rw [text, ofText, splitHyphen?_of_notMem hhyphen]
  | range first last => rw [text, ofText, splitHyphen?_append hhyphen]

theorem text_ofText (cs : List Char) : (ofText cs).text = cs := by
  by_cases h : '-' ∈ cs
  · obtain ⟨first, last, rfl, hfirst⟩ := List.eq_append_cons_of_mem h
    rw [ofText, splitHyphen?_append hfirst, text]
  · rw [ofText, splitHyphen?_of_notMem h, text]

theorem plain_ofText (h : ',' ∉ cs) : (ofText cs).Plain := by
  refine ⟨(text_ofText cs).symm ▸ h, ?_⟩
  by_cases h : '-' ∈ cs
  · obtain ⟨first, last, rfl, hfirst⟩ := List.eq_append_cons_of_mem h
    rw [ofText, splitHyphen?_append hfirst]
    exact hfirst
  · rw [ofText, splitHyphen?_of_notMem h]
    exact h

end Part

/-- The parts of a list of pages.  With commas between them they make up the list. -/
structure PartsOf (cs : List Char) (parts : List Part) : Prop where
  ne_nil : parts ≠ []
  plain : ∀ p ∈ parts, p.Plain
  text_eq : [','].intercalate (parts.map Part.text) = cs

section Parts

variable {cs part : List Char} {parts : List Part}

theorem splitCommas_cons (c : Char) (cs : List Char) : splitCommas (c :: cs) =
    if c == ',' then [] :: splitCommas cs else (splitCommas cs).modifyHead (c :: ·) := by
  simp only [splitCommas, List.foldr_cons]
  split <;> rfl

theorem splitCommas_eq_splitOn (cs : List Char) : splitCommas cs = cs.splitOn ',' := by
  induction cs with
  | nil => rfl
  | cons c cs ih => rw [splitCommas_cons, List.splitOn_cons_eq_if_modifyHead, ih]

theorem notMem_of_mem_splitCommas (h : part ∈ splitCommas cs) : ',' ∉ part := by
  induction cs generalizing part with
  | nil =>
    obtain rfl : part = [] := List.mem_singleton.mp h
    exact List.not_mem_nil
  | cons c cs ih =>
    obtain ⟨first, rest, hsplit⟩ : ∃ first rest, splitCommas cs = first :: rest := ⟨_, _, rfl⟩
    rw [splitCommas_cons] at h
    split at h
    next =>
      rcases List.mem_cons.mp h with rfl | h
      · exact List.not_mem_nil
      · exact ih h
    next hc =>
      rw [hsplit, List.modifyHead_cons] at h
      rcases List.mem_cons.mp h with rfl | h
      · have hfirst : ',' ∉ first := ih (hsplit ▸ List.mem_cons_self)
        rw [List.mem_cons, not_or]
        exact ⟨fun he => hc (beq_iff_eq.mpr he.symm), hfirst⟩
      · exact ih (hsplit ▸ List.mem_cons_of_mem _ h)

/-- A list of pages has its parts in one way only. -/
theorem partsOf_iff : PartsOf cs parts ↔ parts = (splitCommas cs).map Part.ofText := by
  constructor
  · rintro ⟨hne, hplain, rfl⟩
    have hcommas : ∀ part ∈ parts.map Part.text, ',' ∉ part := by
      intro part hpart
      obtain ⟨p, hp, rfl⟩ := List.mem_map.mp hpart
      exact (hplain p hp).1
    have hsame : parts.map (Part.ofText ∘ Part.text) = parts :=
      (List.map_congr_left fun p hp => Part.ofText_text (hplain p hp)).trans (List.map_id parts)
    rw [splitCommas_eq_splitOn, List.splitOn_intercalate ',' hcommas (by simpa using hne),
      List.map_map, hsame]
  · rintro rfl
    have hsame : Part.text ∘ Part.ofText = id := funext Part.text_ofText
    refine ⟨?_, ?_, ?_⟩
    · rw [splitCommas_eq_splitOn, Ne, List.map_eq_nil_iff]
      exact List.splitOn_ne_nil _ _
    · intro p hp
      obtain ⟨part, hpart, rfl⟩ := List.mem_map.mp hp
      exact Part.plain_ofText (notMem_of_mem_splitCommas hpart)
    · rw [List.map_map, hsame, List.map_id, splitCommas_eq_splitOn, List.intercalate_splitOn]

theorem PartsOf.splitCommas_eq (h : PartsOf cs parts) : splitCommas cs = parts.map Part.text := by
  have hsame : Part.text ∘ Part.ofText = id := funext Part.text_ofText
  rw [partsOf_iff.mp h, List.map_map, hsame, List.map_id]

theorem PartsOf.text_of_singleton {p : Part} (h : PartsOf cs [p]) : p.text = cs := by
  rw [← h.text_eq, List.map_singleton, List.intercalate_singleton]

theorem PartsOf.exists_eq_singleton (h : PartsOf cs parts) (hcomma : ',' ∉ cs) :
    ∃ p, parts = [p] := by
  have hsplit := h.splitCommas_eq
  rw [splitCommas_eq_splitOn, List.splitOn_eq_singleton hcomma] at hsplit
  obtain ⟨p, hp, _⟩ := List.map_eq_singleton_iff.mp hsplit.symm
  exact ⟨p, hp⟩

end Parts

/-- The leftmost of some texts that spells no page number. -/
def LeftmostBad (texts : List (List Char)) (bad : List Char) : Prop :=
  ¬ IsNumber bad ∧ ∃ before after, texts = before ++ bad :: after ∧ ∀ cs ∈ before, IsNumber cs

section Reading

variable {texts more : List (List Char)} {bad first last : List Char} {p : Part}

theorem LeftmostBad.append_right (h : LeftmostBad texts bad) (more : List (List Char)) :
    LeftmostBad (texts ++ more) bad := by
  obtain ⟨hbad, before, after, rfl, hbefore⟩ := h
  exact ⟨hbad, before, after ++ more, by rw [List.append_assoc, List.cons_append], hbefore⟩

theorem LeftmostBad.append_left (h : LeftmostBad more bad) (htexts : ∀ cs ∈ texts, IsNumber cs) :
    LeftmostBad (texts ++ more) bad := by
  obtain ⟨hbad, before, after, rfl, hbefore⟩ := h
  refine ⟨hbad, texts ++ before, after, by rw [List.append_assoc], fun cs hcs => ?_⟩
  rcases List.mem_append.mp hcs with hcs | hcs
  · exact htexts cs hcs
  · exact hbefore cs hcs

theorem leftmostBad_cons (h : ¬ IsNumber bad) (texts : List (List Char)) :
    LeftmostBad (bad :: texts) bad :=
  ⟨h, [], texts, rfl, by simp⟩

variable {α : Type}

/-- Reads the two numbers of a range and puts them together. -/
def readPair (f : Nat → Nat → α) (first last : List Char) : Except Error α := do
  let a ← readPage first
  let b ← readPage last
  .ok (f a b)

theorem readPair_cases (f : Nat → Nat → α) (first last : List Char) :
    (∃ a b, Spells first a ∧ Spells last b ∧ readPair f first last = .ok (f a b)) ∨
      ∃ bad, LeftmostBad [first, last] bad ∧ readPair f first last = .error (badNumber bad) := by
  rcases readPage_cases first with ⟨a, ha, hfirst⟩ | hfirst
  · rcases readPage_cases last with ⟨b, hb, hlast⟩ | hlast
    · exact Or.inl ⟨a, b, ha, hb, by rw [readPair, hfirst, hlast]; rfl⟩
    · have hbad : LeftmostBad ([first] ++ [last]) last :=
        (leftmostBad_cons (not_isNumber_of_readPage hlast) []).append_left (by simpa using ⟨a, ha⟩)
      exact Or.inr ⟨last, hbad, by rw [readPair, hfirst, hlast]; rfl⟩
  · exact Or.inr ⟨first, leftmostBad_cons (not_isNumber_of_readPage hfirst) [last],
      by rw [readPair, hfirst]; rfl⟩

theorem mem_expand {a b n : Nat} : n ∈ expand a b ↔ a ≤ n ∧ n ≤ b := by
  rw [expand, List.mem_range'_1]
  omega

theorem Part.names_range_iff {a b n : Nat} (ha : Spells first a) (hb : Spells last b) :
    (Part.range first last).Names n ↔ a ≤ n ∧ n ≤ b := by
  constructor
  · rintro ⟨a', b', ha', hb', hle⟩
    rw [ha.unique ha', hb.unique hb']
    exact hle
  · exact fun hle => ⟨a, b, ha, hb, hle⟩

/-- A part is read as the pages it names if its numbers are numbers. -/
theorem readPart_cases (h : p.Plain) :
    (∃ ns, readPart p.text = .ok ns ∧ (∀ cs ∈ p.numbers, IsNumber cs) ∧ ∀ n, n ∈ ns ↔ p.Names n) ∨
      ∃ bad, LeftmostBad p.numbers bad ∧ readPart p.text = .error (badNumber bad) := by
  obtain ⟨_, hhyphen⟩ := h
  cases p with
  | number cs =>
    rw [Part.text, readPart, Part.splitHyphen?_of_notMem hhyphen]
    rcases readPage_cases cs with ⟨a, ha, hread⟩ | hread
    · refine Or.inl ⟨[a], by rw [hread]; rfl, by simpa [Part.numbers] using ⟨a, ha⟩, fun n => ?_⟩
      rw [List.mem_singleton]
      exact ⟨fun hn => hn ▸ ha, fun hn => Spells.unique hn ha⟩
    · exact Or.inr ⟨cs, leftmostBad_cons (not_isNumber_of_readPage hread) [], by rw [hread]; rfl⟩
  | range first last =>
    have hread : readPart (Part.range first last).text = readPair expand first last := by
      rw [Part.text, readPart, Part.splitHyphen?_append hhyphen]
      rfl
    rw [hread]
    rcases readPair_cases expand first last with ⟨a, b, ha, hb, hpair⟩ | hbad
    · refine Or.inl ⟨_, hpair, by simpa [Part.numbers] using ⟨⟨a, ha⟩, b, hb⟩, fun n => ?_⟩
      rw [mem_expand, Part.names_range_iff ha hb]
    · exact Or.inr hbad

/-- The parts of a list are read from left to right. -/
theorem readParts_cases {parts : List Part} (h : ∀ p ∈ parts, p.Plain) :
    (∃ ns, readParts (parts.map Part.text) = .ok ns ∧
      (∀ cs ∈ parts.flatMap Part.numbers, IsNumber cs) ∧ ∀ n, n ∈ ns ↔ ∃ p ∈ parts, p.Names n) ∨
      ∃ bad, LeftmostBad (parts.flatMap Part.numbers) bad ∧
        readParts (parts.map Part.text) = .error (badNumber bad) := by
  induction parts with
  | nil => exact Or.inl ⟨[], rfl, by simp, by simp⟩
  | cons p parts ih =>
    rw [List.forall_mem_cons] at h
    rw [List.map_cons, readParts, List.flatMap_cons]
    rcases readPart_cases h.1 with ⟨ns, hread, hnumbers, hns⟩ | ⟨bad, hbad, hread⟩
    · rcases ih h.2 with ⟨ms, hreads, hmore, hms⟩ | ⟨bad, hbad, hreads⟩
      · refine Or.inl ⟨ns ++ ms, by rw [hread, hreads]; rfl, ?_, fun n => ?_⟩
        · exact List.forall_mem_append.mpr ⟨hnumbers, hmore⟩
        · simp only [List.mem_append, hns, hms, List.mem_cons, exists_eq_or_imp]
      · exact Or.inr ⟨bad, hbad.append_left hnumbers, by rw [hread, hreads]; rfl⟩
    · exact Or.inr ⟨bad, hbad.append_right _, by rw [hread]; rfl⟩

end Reading

section InOrder

theorem mem_dropRepeats {n : Nat} {ns : List Nat} : n ∈ dropRepeats ns ↔ n ∈ ns := by
  induction ns using dropRepeats.induct with
  | case1 => rfl
  | case2 m => rfl
  | case3 m rest ih =>
    rw [dropRepeats, if_pos rfl, ih]
    simp only [List.mem_cons, or_self_left]
  | case4 m k rest hne ih => rw [dropRepeats, if_neg hne, List.mem_cons, ih, ← List.mem_cons]

theorem pairwise_dropRepeats {ns : List Nat} (h : ns.Pairwise (· ≤ ·)) :
    (dropRepeats ns).Pairwise (· < ·) := by
  induction ns using dropRepeats.induct with
  | case1 => exact List.Pairwise.nil
  | case2 m => exact List.pairwise_singleton _ m
  | case3 m rest ih =>
    rw [dropRepeats, if_pos rfl]
    exact ih (List.pairwise_cons.mp h).2
  | case4 m k rest hne ih =>
    obtain ⟨hle, hrest⟩ := List.pairwise_cons.mp h
    obtain ⟨hk, _⟩ := List.pairwise_cons.mp hrest
    rw [dropRepeats, if_neg hne, List.pairwise_cons]
    refine ⟨fun n hn => ?_, ih hrest⟩
    -- what is left begins with `k` or what is not before `k`
    have hmk := hle k List.mem_cons_self
    rcases List.mem_cons.mp (mem_dropRepeats.mp hn) with rfl | hn
    · omega
    · have hkn := hk n hn
      omega

end InOrder

section Lists

variable {text : String} {first last : List Char}

/-- The pages of a list in order. -/
def ofNumbers (ns : List Nat) : PageSelection := .pages (dropRepeats (ns.mergeSort (· ≤ ·)))

theorem includes_range_iff {a b n : Nat} : (range a b).includes n ↔ a ≤ n ∧ n ≤ b := by
  rw [includes, Bool.and_eq_true, decide_eq_true_eq, decide_eq_true_eq]

theorem includes_ofNumbers_iff {ns : List Nat} {n : Nat} : (ofNumbers ns).includes n ↔ n ∈ ns := by
  rw [ofNumbers, includes, List.contains_iff_mem, mem_dropRepeats, List.mem_mergeSort]

/-- A list that is one range is kept as a range, and any other is read part by part. -/
theorem parse_eq {parts : List Part} (h : PartsOf (Text.trim text.toList) parts)
    (hne : Text.trim text.toList ≠ []) (hall : Text.trim text.toList ≠ "all".toList) :
    (∃ first last, parts = [.range first last] ∧ parse text = readPair range first last) ∨
      (∀ first last, parts ≠ [.range first last]) ∧
        parse text = (readParts (parts.map Part.text)).map ofNumbers := by
  have hlist : ¬ ((Text.trim text.toList).isEmpty || Text.trim text.toList == ['a', 'l', 'l']) := by
    rw [Bool.or_eq_true, List.isEmpty_iff, beq_iff_eq, not_or]
    exact ⟨hne, hall⟩
  have hbind : (do
      let numbers ← readParts (splitCommas (Text.trim text.toList))
      .ok (.pages (dropRepeats (numbers.mergeSort (· ≤ ·))))) =
        (readParts (parts.map Part.text)).map ofNumbers := by
    rw [h.splitCommas_eq]
    cases readParts (parts.map Part.text) <;> rfl
  rw [parse, if_neg hlist]
  by_cases hcomma : ',' ∈ Text.trim text.toList
  · refine Or.inr ⟨?_, ?_⟩
    · rintro first last rfl
      obtain ⟨hplain, _⟩ := h.plain _ List.mem_cons_self
      rw [h.text_of_singleton] at hplain
      exact hplain hcomma
    · rw [List.contains_iff_mem.mpr hcomma, ← hbind]
  · obtain ⟨p, rfl⟩ := h.exists_eq_singleton hcomma
    obtain ⟨_, hhyphen⟩ := h.plain _ List.mem_cons_self
    have htext := h.text_of_singleton
    have hcontains : (Text.trim text.toList).contains ',' = false := by
      rw [Bool.eq_false_iff, Ne, List.contains_iff_mem]
      exact hcomma
    rw [hcontains]
    cases p with
    | number cs =>
      refine Or.inr ⟨by simp, ?_⟩
      rw [← hbind, ← htext, Part.text, Part.splitHyphen?_of_notMem hhyphen]
    | range first last =>
      refine Or.inl ⟨first, last, rfl, ?_⟩
      rw [← htext, Part.text, Part.splitHyphen?_append hhyphen]
      rfl

theorem parse_eq_all (h : Text.trim text.toList = [] ∨ Text.trim text.toList = "all".toList) :
    parse text = .ok all := by
  have hall : (Text.trim text.toList).isEmpty || Text.trim text.toList == ['a', 'l', 'l'] := by
    rw [Bool.or_eq_true, List.isEmpty_iff, beq_iff_eq]
    exact h
  rw [parse, if_pos hall]

/-- A selection has the pages that parts name.  It is a range if that is all there is, and has its
pages strictly in order if it has them one by one. -/
structure Selects (s : PageSelection) (parts : List Part) : Prop where
  includes_iff : ∀ n, s.includes n ↔ ∃ p ∈ parts, p.Names n
  isRange_iff : (∃ a b, s = range a b) ↔ ∃ first last, parts = [.range first last]
  increasing : ∀ ns, s = pages ns → ns.Pairwise (· < ·)

theorem selects_range {a b : Nat} (ha : Spells first a) (hb : Spells last b) :
    (range a b).Selects [.range first last] where
  includes_iff n := by
    rw [includes_range_iff, ← Part.names_range_iff ha hb]
    simp only [List.mem_singleton, exists_eq_left]
  isRange_iff := iff_of_true ⟨a, b, rfl⟩ ⟨first, last, rfl⟩
  increasing ns hs := by cases hs

theorem selects_ofNumbers {ns : List Nat} {parts : List Part}
    (hns : ∀ n, n ∈ ns ↔ ∃ p ∈ parts, p.Names n) (hmany : ∀ first last, parts ≠ [.range first last]) :
    (ofNumbers ns).Selects parts where
  includes_iff n := includes_ofNumbers_iff.trans (hns n)
  isRange_iff := by
    refine iff_of_false ?_ ?_
    · rintro ⟨a, b, hs⟩
      cases hs
    · rintro ⟨first, last, hparts⟩
      exact hmany first last hparts
  increasing ms hs := by
    cases hs
    exact pairwise_dropRepeats (List.pairwise_mergeSort' (· ≤ ·) ns)

/-- A list is read as what its parts name, or the leftmost text that is no number is reported. -/
theorem parse_cases {parts : List Part} (h : PartsOf (Text.trim text.toList) parts)
    (hne : Text.trim text.toList ≠ []) (hall : Text.trim text.toList ≠ "all".toList) :
    (∃ bad, LeftmostBad (parts.flatMap Part.numbers) bad ∧ parse text = .error (badNumber bad)) ∨
      (∀ cs ∈ parts.flatMap Part.numbers, IsNumber cs) ∧
        ∃ s, parse text = .ok s ∧ s.Selects parts := by
  rcases parse_eq h hne hall with ⟨first, last, rfl, hparse⟩ | ⟨hmany, hparse⟩
  · rw [hparse]
    rcases readPair_cases range first last with ⟨a, b, ha, hb, hpair⟩ | hbad
    · refine Or.inr ⟨?_, _, hpair, selects_range ha hb⟩
      simpa [Part.numbers] using ⟨⟨a, ha⟩, b, hb⟩
    · exact Or.inl hbad
  · rw [hparse]
    rcases readParts_cases h.plain with ⟨ns, hread, hnumbers, hns⟩ | ⟨bad, hbad, hread⟩
    · exact Or.inr ⟨hnumbers, ofNumbers ns, by rw [hread]; rfl, selects_ofNumbers hns hmany⟩
    · exact Or.inl ⟨bad, hbad, by rw [hread]; rfl⟩

/-- A text selects all pages if nothing or `all` is left of it without the white space around it.
Otherwise it is a list that has its parts in one way only.  If some of their numbers are none, the error
names the leftmost of these, and else what is read selects the pages that the parts name.  An index
counts from zero what a page number counts from one. -/
theorem parse_selects (text : String) :
    let cs := Text.trim text.toList
    ((cs = [] ∨ cs = "all".toList) ∧ parse text = .ok all ∧ (∀ n, all.includes n) ∨
      cs ≠ [] ∧ cs ≠ "all".toList ∧ ∃ parts, (∀ ps, PartsOf cs ps ↔ ps = parts) ∧
        ((∃ bad, LeftmostBad (parts.flatMap Part.numbers) bad ∧
            parse text = .error (badNumber bad)) ∨
          (∀ number ∈ parts.flatMap Part.numbers, IsNumber number) ∧
            ∃ s, parse text = .ok s ∧ s.Selects parts)) ∧
    ∀ (s : PageSelection), ∀ i < maxPage, s.includesIndex i ↔ s.includes (i + 1) := by
  intro cs
  refine ⟨?_, fun s i _ => Iff.rfl⟩
  by_cases hall : cs = [] ∨ cs = "all".toList
  · exact Or.inl ⟨hall, parse_eq_all hall, fun _ => rfl⟩
  · obtain ⟨hne, hall⟩ := not_or.mp hall
    refine Or.inr ⟨hne, hall, _, fun ps => partsOf_iff, ?_⟩
    exact parse_cases (partsOf_iff.mpr rfl) hne hall

/-- The ends of a range may be in the wrong order, and a number may have a plus sign and zeros. -/
theorem parse_selects_reversed :
    let cs := Text.trim " 7-5,+003 ".toList
    let parts : List Part := [.range ['7'] ['5'], .number ['+', '0', '0', '3']]
    cs ≠ [] ∧ PartsOf cs parts ∧ 2 < maxPage ∧
      ∃ s, parse " 7-5,+003 " = .ok s ∧ s.includesIndex 2 ∧ ¬ s.includes 6 := by
  intro cs parts
  have hcs : cs = "7-5,+003".toList := by decide +kernel
  have hne : cs ≠ [] := by rw [hcs]; decide
  have hparts : PartsOf cs parts := by
    refine ⟨List.cons_ne_nil _ _, ?_, by rw [hcs]; decide +kernel⟩
    simp [parts, Part.Plain, Part.text]
  have hseven : Spells ['7'] 7 := ⟨by decide, [], 0, Or.inl rfl, by decide +kernel⟩
  have hfive : Spells ['5'] 5 := ⟨by decide, [], 0, Or.inl rfl, by decide +kernel⟩
  have hthree : Spells ['+', '0', '0', '3'] 3 :=
    ⟨by decide, ['+'], 2, Or.inr rfl, by decide +kernel⟩
  refine ⟨hne, hparts, by decide, ?_⟩
  obtain ⟨⟨hall | hall, _⟩ | ⟨_, _, ps, hps, hread⟩, hindex⟩ := parse_selects " 7-5,+003 "
  · exact absurd hall hne
  · exact absurd (hcs.symm.trans hall) (by decide)
  obtain rfl := (hps parts).mp hparts
  rcases hread with ⟨bad, ⟨hbad, before, after, htexts, _⟩, _⟩ | ⟨_, s, hs, hselects⟩
  · have hmem : bad ∈ parts.flatMap Part.numbers := by
      rw [htexts]
      simp
    simp only [parts, List.flatMap_cons, List.flatMap_nil, Part.numbers, List.cons_append,
      List.nil_append, List.mem_cons, List.not_mem_nil, or_false] at hmem
    rcases hmem with rfl | rfl | rfl
    exacts [absurd ⟨_, hseven⟩ hbad, absurd ⟨_, hfive⟩ hbad, absurd ⟨_, hthree⟩ hbad]
  · refine ⟨s, hs, (hindex s 2 (by decide)).mpr ?_, fun hsix => ?_⟩
    · exact (hselects.includes_iff 3).mpr ⟨.number _, by simp [parts], hthree⟩
    · obtain ⟨p, hp, hnames⟩ := (hselects.includes_iff 6).mp hsix
      simp only [parts, List.mem_cons, List.not_mem_nil, or_false] at hp
      rcases hp with rfl | rfl
      · rw [Part.names_range_iff hseven hfive] at hnames
        omega
      · exact absurd (Spells.unique hnames hthree) (by decide)

end Lists

end LayoutTrail.PageSelection
