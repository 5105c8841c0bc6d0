import LayoutTrail.Proofs.PageLists
import LayoutTrail.Proofs.WordCounts
import LayoutTrail.Report.Listing
import Mathlib.Data.List.Forall2

/-!
# Listings read back

A listing has a line for every word of the selected pages.  Cursors are padded, but a space follows them
in any case, and no bracket is closed before the text of the word.  So the cursor and the text can be
read off each line, and the cursor leads back to the text.
-/

namespace LayoutTrail

/-- Characters among which no bracket is closed and no line ends. -/
def Unbroken (cs : List Char) : Prop := ∀ x ∈ cs, x ≠ ']' ∧ x ≠ '\n'

section Unbroken

variable {cs ds : List Char} {x : Char}

theorem unbroken_append : Unbroken (cs ++ ds) ↔ Unbroken cs ∧ Unbroken ds := List.forall_mem_append

theorem unbroken_cons : Unbroken (x :: cs) ↔ (x ≠ ']' ∧ x ≠ '\n') ∧ Unbroken cs :=
  List.forall_mem_cons

theorem unbroken_replicate (n : Nat) (hx : x ≠ ']' ∧ x ≠ '\n') : Unbroken (List.replicate n x) := by
  intro y hy
  obtain ⟨_, rfl⟩ := List.mem_replicate.mp hy
  exact hx

theorem notMem_toDigits (h : ¬ x.isDigit) (n : Nat) : x ∉ Nat.toDigits 10 n :=
  fun hx => h (Nat.isDigit_of_mem_toDigits (by decide) (by decide) hx)

theorem unbroken_toDigits (n : Nat) : Unbroken (Nat.toDigits 10 n) := by
  intro x hx
  constructor
  · rintro rfl
    exact notMem_toDigits (by decide) n hx
  · rintro rfl
    exact notMem_toDigits (by decide) n hx

theorem unbroken_pointed (n places : Nat) : Unbroken (Decimal.pointed n places) := by
  simp only [Decimal.pointed, Decimal.digits]
  split
  · exact unbroken_toDigits _
  · rw [unbroken_append, unbroken_cons, unbroken_append]
    exact ⟨unbroken_toDigits _, by decide, unbroken_replicate _ (by decide), unbroken_toDigits _⟩

theorem unbroken_fixed (places : Nat) (a : Float) : Unbroken (Decimal.fixed places a).toList := by
  unfold Decimal.fixed
  split
  · simp [Unbroken]
  · split <;> simp [Unbroken]
  next negative b _ =>
    dsimp only
    rw [String.toList_ofList]
    split
    · exact unbroken_cons.mpr ⟨by decide, unbroken_pointed _ _⟩
    · exact unbroken_pointed _ _

end Unbroken

/-- The position that a line begins with: four numbers with colons between them, up to the first
space. -/
def Cursor.ofLine? (line : String) : Option Cursor :=
  match ((line.toList.takeWhile (· != ' ')).splitOn ':').mapM PageSelection.digitsValue? with
  | some [page, line, phrase, word] => some ⟨page, line, phrase, word⟩
  | _ => none

/-- The text that a line ends with, two spaces behind the first closing bracket. -/
def textOfLine (line : String) : String :=
  String.ofList ((line.toList.dropWhile (· != ']')).drop 3)

/-- The lines of a text; an empty text has none. -/
def linesOf (s : String) : List String :=
  if s = "" then [] else (s.toList.splitOn '\n').map String.ofList

section Lines

variable {lines : List String}

theorem intercalate_eq_empty_iff (hne : ∀ line ∈ lines, line ≠ "") :
    "\n".intercalate lines = "" ↔ lines = [] := by
  rw [← String.toList_inj, String.toList_intercalate]
  cases lines with
  | nil => simp
  | cons line lines =>
    have hline : line.toList ≠ [] := by
      rw [Ne, String.toList_eq_nil_iff]
      exact hne line List.mem_cons_self
    cases lines <;> simp [List.intercalate_cons_cons, hline]

/-- Lines that are put together are read back if none of them has an end inside. -/
theorem linesOf_intercalate (hne : ∀ line ∈ lines, line ≠ "")
    (hends : ∀ line ∈ lines, '\n' ∉ line.toList) : linesOf ("\n".intercalate lines) = lines := by
  unfold linesOf
  split
  next hempty => exact ((intercalate_eq_empty_iff hne).mp hempty).symm
  next hempty =>
    have hnil : lines ≠ [] := mt (intercalate_eq_empty_iff hne).mpr hempty
    have hpieces : ∀ piece ∈ lines.map String.toList, '\n' ∉ piece := by
      intro piece hpiece
      obtain ⟨line, hline, rfl⟩ := List.mem_map.mp hpiece
      exact hends line hline
    have hnewline : "\n".toList = ['\n'] := rfl
    rw [String.toList_intercalate, hnewline,
      List.splitOn_intercalate '\n' hpieces (by simpa using hnil), List.map_map]
    exact (List.map_congr_left fun line _ => String.ofList_toList).trans (List.map_id lines)

end Lines

section Line

variable {c : Cursor} {w : Word}

theorem toList_toText (c : Cursor) : c.toText.toList =
    Nat.toDigits 10 c.page ++ ':' :: (Nat.toDigits 10 c.line ++ ':' ::
      (Nat.toDigits 10 c.phrase ++ ':' :: Nat.toDigits 10 c.word)) := by
  simp [Cursor.toText, String.toList_append, Nat.toList_repr]

theorem splitOn_toText (c : Cursor) : c.toText.toList.splitOn ':' =
    [Nat.toDigits 10 c.page, Nat.toDigits 10 c.line, Nat.toDigits 10 c.phrase,
      Nat.toDigits 10 c.word] := by
  have hcolon := notMem_toDigits (show ¬ ':'.isDigit by decide)
  rw [toList_toText, List.splitOn_append_cons_self_of_not_mem (hcolon _),
    List.splitOn_append_cons_self_of_not_mem (hcolon _),
    List.splitOn_append_cons_self_of_not_mem (hcolon _), List.splitOn_eq_singleton (hcolon _)]

theorem space_notMem_toText (c : Cursor) : ' ' ∉ c.toText.toList := by
  have hspace := notMem_toDigits (show ¬ ' '.isDigit by decide)
  rw [toList_toText]
  simp [hspace]

theorem unbroken_toText (c : Cursor) : Unbroken c.toText.toList := by
  rw [toList_toText]
  simp only [unbroken_append, unbroken_cons]
  exact ⟨unbroken_toDigits _, by decide, unbroken_toDigits _, by decide, unbroken_toDigits _,
    by decide, unbroken_toDigits _⟩

/-- A line is the cursor, a space, the padding and the extent up to the closing bracket, two spaces and
the text. -/
theorem exists_listingLine_eq (c : Cursor) (w : Word) : ∃ extent, Unbroken extent ∧
    (listingLine c w).toList =
      c.toText.toList ++ ' ' :: (extent ++ ']' :: ' ' :: ' ' :: w.text.toList) := by
  let left := (Decimal.fixed extentPlaces w.quad.left).toList
  let right := (Decimal.fixed extentPlaces w.quad.right).toList
  let padding := List.replicate (cursorWidth - c.toText.length) ' '
  have hpadding (rest : List Char) : padding ++ ' ' :: rest = ' ' :: (padding ++ rest) := by
    rw [List.append_cons, ← List.replicate_succ', List.replicate_succ, List.cons_append]
  refine ⟨padding ++ '[' :: (left ++ ',' :: ' ' :: right), ?_, ?_⟩
  · simp only [unbroken_append, unbroken_cons]
    exact ⟨unbroken_replicate _ (by decide), by decide, unbroken_fixed _ _, by decide, by decide,
      unbroken_fixed _ _⟩
  · have hline : (listingLine c w).toList = c.toText.toList ++ (padding ++ ' ' ::
        '[' :: (left ++ ',' :: ' ' :: (right ++ ']' :: ' ' :: ' ' :: w.text.toList))) := by
      simp [listingLine, padRight, String.toList_append, padding, left, right]
    rw [hline, hpadding]
    simp only [List.append_assoc, List.cons_append]

theorem Cursor.ofLine?_listingLine (c : Cursor) (w : Word) :
    ofLine? (listingLine c w) = some c := by
  obtain ⟨extent, _, hline⟩ := exists_listingLine_eq c w
  have hspace : ∀ x ∈ c.toText.toList, (x != ' ') = true := fun x hx =>
    bne_iff_ne.mpr fun he => space_notMem_toText c (he ▸ hx)
  have hread (n : Nat) : PageSelection.digitsValue? (Nat.toDigits 10 n) = some n :=
    PageSelection.digitsValue?_eq_some_iff.mpr ⟨0, rfl⟩
  rw [ofLine?, hline, List.takeWhile_append_of_pos hspace, List.takeWhile_cons_of_neg (by decide),
    List.append_nil, splitOn_toText]
  simp only [List.mapM_cons, List.mapM_nil, hread, Option.bind_eq_bind, Option.bind_some,
    Option.pure_def]

theorem textOfLine_listingLine (c : Cursor) (w : Word) : textOfLine (listingLine c w) = w.text := by
  obtain ⟨extent, hextent, hline⟩ := exists_listingLine_eq c w
  have hbefore : ∀ x ∈ c.toText.toList ++ ' ' :: extent, (x != ']') = true := by
    intro x hx
    have hunbroken : Unbroken (c.toText.toList ++ ' ' :: extent) :=
      unbroken_append.mpr ⟨unbroken_toText c, unbroken_cons.mpr ⟨by decide, hextent⟩⟩
    exact bne_iff_ne.mpr (hunbroken x hx).1
  have hsplit : (listingLine c w).toList =
      (c.toText.toList ++ ' ' :: extent) ++ ']' :: ' ' :: ' ' :: w.text.toList := by
    rw [hline, List.append_assoc, List.cons_append]
  rw [textOfLine, hsplit, List.dropWhile_append_of_pos hbefore,
    List.dropWhile_cons_of_neg (by decide)]
  exact String.ofList_toList

theorem listingLine_ne_empty (c : Cursor) (w : Word) : listingLine c w ≠ "" := by
  obtain ⟨extent, _, hline⟩ := exists_listingLine_eq c w
  intro hempty
  rw [hempty] at hline
  simp at hline

/-- The line of a word ends only if the text of the word does. -/
theorem newline_notMem_listingLine (h : '\n' ∉ w.text.toList) :
    '\n' ∉ (listingLine c w).toList := by
  obtain ⟨extent, hextent, hline⟩ := exists_listingLine_eq c w
  have hcursor : '\n' ∉ c.toText.toList := fun hx => (unbroken_toText c _ hx).2 rfl
  have hinside : '\n' ∉ extent := fun hx => (hextent _ hx).2 rfl
  rw [hline]
  simp [hcursor, hinside, h]

end Line

namespace Document

variable {d : Document} {pages : PageSelection} {c : Cursor}

/-- The positions of the words on the selected pages, in reading order. -/
def positionsOn (d : Document) (pages : PageSelection) : List Cursor :=
  (d.positionsFrom .start).filter (pages.includesIndex ·.page)

theorem mem_positionsOn :
    c ∈ d.positionsOn pages ↔ (d.wordAt? c).isSome ∧ pages.includes (c.page + 1) := by
  rw [positionsOn, ← wordPositions_eq, List.mem_filter, mem_wordPositions]
  rfl

theorem pairwise_positionsOn (d : Document) (pages : PageSelection) :
    (d.positionsOn pages).Pairwise (· < ·) :=
  (d.pairwise_positionsFrom _).filter _

/-- A page is selected as a whole. -/
theorem positionsOn_eq_flatMap (d : Document) (pages : PageSelection) :
    d.positionsOn pages = d.pages.zipIdx.flatMap fun page =>
      if pages.includes (page.2 + 1) then page.1.positionsFrom page.2 0 0 0 else [] := by
  rw [positionsOn, positionsFrom_start, List.filter_flatMap]
  congr 1
  funext ⟨page, i⟩
  have hpage : ∀ c ∈ page.positionsFrom i 0 0 0, c.page = i := fun c hc =>
    (Page.mem_positionsFrom.mp hc).1
  dsimp only
  split
  next h =>
    refine List.filter_eq_self.mpr fun c hc => ?_
    rw [hpage c hc]
    exact h
  next h =>
    refine List.filter_eq_nil_iff.mpr fun c hc => ?_
    rw [hpage c hc]
    exact h

theorem length_positionsOn (d : Document) (pages : PageSelection) : (d.positionsOn pages).length =
    total (·.1.wordCount) (d.pages.zipIdx.filter fun page => pages.includes (page.2 + 1)) := by
  rw [positionsOn_eq_flatMap, length_flatMap_eq_total, total_filter]
  congr 1
  funext page
  rw [apply_ite List.length, Page.length_positionsFrom_zero, List.length_nil]

/-- A listing has one line for each word, in the order of the words. -/
theorem forall₂_listingLines (d : Document) (pages : PageSelection) :
    List.Forall₂ (fun c line => ∃ w, d.wordAt? c = some w ∧ line = listingLine c w)
      (d.positionsOn pages) (d.listingLines pages) := by
  have hwords : ∀ c ∈ d.positionsOn pages, (d.wordAt? c).isSome := fun c hc =>
    (mem_positionsOn.mp hc).1
  change List.Forall₂ _ _ ((d.positionsOn pages).filterMap fun c => (d.wordAt? c).map (listingLine c))
  generalize d.positionsOn pages = cs at hwords
  induction cs with
  | nil => exact List.Forall₂.nil
  | cons c cs ih =>
    obtain ⟨hc, hcs⟩ := List.forall_mem_cons.mp hwords
    obtain ⟨w, hw⟩ := Option.isSome_iff_exists.mp hc
    rw [List.filterMap_cons, hw, Option.map_some]
    exact List.Forall₂.cons ⟨w, hw, rfl⟩ (ih hcs)

theorem exists_of_mem_listingLines {line : String} (h : line ∈ d.listingLines pages) :
    ∃ c w, d.wordAt? c = some w ∧ line = listingLine c w := by
  change line ∈ (d.positionsOn pages).filterMap fun c => (d.wordAt? c).map (listingLine c) at h
  obtain ⟨c, _, hline⟩ := List.mem_filterMap.mp h
  obtain ⟨w, hw, rfl⟩ := Option.map_eq_some_iff.mp hline
  exact ⟨c, w, hw, rfl⟩

theorem map_ofLine?_listingLines (d : Document) (pages : PageSelection) :
    (d.listingLines pages).map Cursor.ofLine? = (d.positionsOn pages).map some := by
  rw [eq_comm, ← List.forall₂_eq_eq_eq, List.forall₂_map_left_iff, List.forall₂_map_right_iff]
  refine (d.forall₂_listingLines pages).imp ?_
  rintro c line ⟨w, _, rfl⟩
  exact (Cursor.ofLine?_listingLine c w).symm

/-- The line of a word begins with its cursor and ends with its text behind two spaces. -/
def IsEntry (d : Document) (c : Cursor) (line : String) : Prop :=
  ∃ w extent, d.wordAt? c = some w ∧ line = c.toText ++ extent ++ "  " ++ w.text

theorem isEntry_listingLine {w : Word} (h : d.wordAt? c = some w) : d.IsEntry c (listingLine c w) := by
  obtain ⟨extent, _, hline⟩ := exists_listingLine_eq c w
  refine ⟨w, String.ofList (' ' :: (extent ++ [']'])), h, String.toList_inj.mp ?_⟩
  rw [hline]
  simp

/-- The listing joins one line for each word on a selected page, in reading order, and each line begins
with the cursor of its word and ends with the text of the word behind two spaces.  If no text ends a
line, the listing has as many lines as the selected pages have words, none if they are blank; the cursors
that are read off the lines are those of the words, in strict reading order, and each leads back to the
text of its line. -/
theorem listing_reads_back (d : Document) (pages : PageSelection) :
    let selected := d.pages.zipIdx.filter fun page => pages.includes (page.2 + 1)
    ∃ cs lines, cs.Pairwise (· < ·) ∧
      (∀ c, c ∈ cs ↔ (d.wordAt? c).isSome ∧ pages.includes (c.page + 1)) ∧
      d.listing pages = "\n".intercalate lines ∧ List.Forall₂ d.IsEntry cs lines ∧
      ((∀ c w, d.wordAt? c = some w → '\n' ∉ w.text.toList) →
        linesOf (d.listing pages) = lines ∧ lines.length = total (·.1.wordCount) selected ∧
        (d.listing pages = "" ↔ total (·.1.wordCount) selected = 0) ∧
        lines.map Cursor.ofLine? = cs.map some ∧
        ∀ line ∈ lines, ∃ c w, Cursor.ofLine? line = some c ∧ d.wordAt? c = some w ∧
          textOfLine line = w.text) := by
  intro selected
  have hlines := d.forall₂_listingLines pages
  refine ⟨d.positionsOn pages, d.listingLines pages, d.pairwise_positionsOn pages,
    fun c => mem_positionsOn, rfl, hlines.imp ?_, fun htexts => ?_⟩
  · rintro c line ⟨w, hw, rfl⟩
    exact isEntry_listingLine hw
  · have hline : ∀ line ∈ d.listingLines pages, ∃ c w, d.wordAt? c = some w ∧
        line = listingLine c w := fun line hmem => d.exists_of_mem_listingLines hmem
    have hne : ∀ line ∈ d.listingLines pages, line ≠ "" := by
      intro line hmem
      obtain ⟨c, w, _, rfl⟩ := hline line hmem
      exact listingLine_ne_empty c w
    have hends : ∀ line ∈ d.listingLines pages, '\n' ∉ line.toList := by
      intro line hmem
      obtain ⟨c, w, hw, rfl⟩ := hline line hmem
      exact newline_notMem_listingLine (htexts c w hw)
    have hlength : (d.listingLines pages).length = total (·.1.wordCount) selected :=
      hlines.length_eq.symm.trans (d.length_positionsOn pages)
    refine ⟨linesOf_intercalate hne hends, hlength, ?_, d.map_ofLine?_listingLines pages, ?_⟩
    · rw [← hlength, List.length_eq_zero_iff]
      exact intercalate_eq_empty_iff hne
    · intro line hmem
      obtain ⟨c, w, hw, rfl⟩ := hline line hmem
      exact ⟨c, w, Cursor.ofLine?_listingLine c w, hw, textOfLine_listingLine c w⟩

theorem forall_wordAt? {P : Word → Prop} {w : Word}
    (h : ∀ page ∈ d.pages, ∀ l ∈ page.lines, ∀ p ∈ l.phrases, ∀ w ∈ p.words, P w)
    (hw : d.wordAt? c = some w) : P w := by
  obtain ⟨p, hp, hword⟩ := wordAt?_eq_some_iff.mp hw
  obtain ⟨page, hpage, l, hl, hphrase⟩ := phraseAt?_eq_some_iff.mp hp
  exact h page (List.mem_of_getElem? hpage) l (List.mem_of_getElem? hl) p
    (List.mem_of_getElem? hphrase) w (List.mem_of_getElem? hword)

/-- Two pages; the text of the word on the second one has a bracket and spaces inside. -/
def bracketed : Document := ⟨[pageOf 2, ⟨[⟨[⟨"", {}, [⟨"[a]  b", {}⟩]⟩]⟩]⟩]⟩

/-- The text behind the cursor is read whole, whatever it has inside, and pages that do not exist may be
selected. -/
theorem listing_reads_back_bracketed :
    (∀ c w, bracketed.wordAt? c = some w → '\n' ∉ w.text.toList) ∧
      ∃ line, linesOf (bracketed.listing (.range 2 9)) = [line] ∧
        Cursor.ofLine? line = some ⟨1, 0, 0, 0⟩ ∧ textOfLine line = "[a]  b" := by
  have htexts : ∀ c w, bracketed.wordAt? c = some w → '\n' ∉ w.text.toList :=
    fun c w => forall_wordAt? (P := fun w => '\n' ∉ w.text.toList) (by simp [bracketed, pageOf])
  refine ⟨htexts, ?_⟩
  obtain ⟨cs, lines, _, hmem, _, _, hread⟩ := listing_reads_back bracketed (.range 2 9)
  obtain ⟨hlines, hlength, _, hcursors, htext⟩ := hread htexts
  obtain ⟨line, rfl⟩ := List.length_eq_one_iff.mp hlength
  obtain ⟨c, w, hc, hw, hline⟩ := htext line (List.mem_singleton.mpr rfl)
  have hcs : cs = [c] := by
    rw [List.map_singleton, hc, ← List.map_singleton] at hcursors
    exact (List.map_injective_iff.mpr (fun _ _ => Option.some.inj) hcursors).symm
  obtain rfl : ⟨1, 0, 0, 0⟩ = c := by
    rw [← List.mem_singleton, ← hcs]
    exact (hmem _).mpr ⟨rfl, rfl⟩
  obtain rfl : ⟨"[a]  b", {}⟩ = w := Option.some.inj hw
  exact ⟨line, hlines, hc, hline⟩

end Document

end LayoutTrail
