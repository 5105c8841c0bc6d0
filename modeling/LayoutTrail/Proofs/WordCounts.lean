import LayoutTrail.Proofs.ReadingOrder

/-!
# How many words the walk meets

From the start of a document the walk meets as many positions as the document counts words.  It goes
page by page: behind the words of the pages before it, a page has a run as long as its own count.
-/

namespace LayoutTrail

section Total

variable {α β : Type} (count : α → Nat)

@[simp] theorem total_nil : total count [] = 0 := rfl

@[simp] theorem total_cons (x : α) (xs : List α) : total count (x :: xs) = count x + total count xs := rfl

theorem total_zipIdx (xs : List α) (k : Nat) :
    total (fun x => count x.1) (xs.zipIdx k) = total count xs := by
  induction xs generalizing k with
  | nil => rfl
  | cons x xs ih => rw [List.zipIdx_cons, total_cons, total_cons, ih]

theorem total_eq_zero_iff (xs : List α) : total count xs = 0 ↔ ∀ x ∈ xs, count x = 0 := by
  induction xs with
  | nil => simp
  | cons x xs ih => rw [total_cons, Nat.add_eq_zero_iff, ih, List.forall_mem_cons]

theorem total_filter (p : α → Bool) (xs : List α) :
    total count (xs.filter p) = total (fun x => if p x then count x else 0) xs := by
  induction xs with
  | nil => rfl
  | cons x xs ih =>
    rw [List.filter_cons, total_cons, ← ih]
    split
    · rw [total_cons]
    · rw [Nat.zero_add]

/-- Lists put one after the other are as long as all of them together. -/
theorem length_flatMap_eq_total (f : α → List β) (xs : List α) :
    (xs.flatMap f).length = total (fun x => (f x).length) xs := by
  induction xs with
  | nil => rfl
  | cons x xs ih => rw [List.flatMap_cons, List.length_append, total_cons, ih]

end Total

theorem Phrase.length_positionsFrom_zero (p : Phrase) (i j k : Nat) :
    (p.positionsFrom i j k 0).length = p.wordCount := by
  rw [positionsFrom_zero, List.length_map, List.length_range, wordCount]

theorem Line.length_positionsFrom_zero (l : Line) (i j : Nat) :
    (l.positionsFrom i j 0 0).length = l.wordCount := by
  rw [positionsFrom_zero, length_flatMap_eq_total]
  simp only [Phrase.length_positionsFrom_zero]
  exact total_zipIdx Phrase.wordCount l.phrases 0

theorem Page.length_positionsFrom_zero (p : Page) (i : Nat) :
    (p.positionsFrom i 0 0 0).length = p.wordCount := by
  rw [positionsFrom_zero, length_flatMap_eq_total]
  simp only [Line.length_positionsFrom_zero]
  exact total_zipIdx Line.wordCount p.lines 0

namespace Document

variable {d : Document} {i : Nat} {page : Page}

theorem positionsFrom_start (d : Document) :
    d.positionsFrom .start = d.pages.zipIdx.flatMap fun (p, i) => p.positionsFrom i 0 0 0 := by
  rw [← wordPositions_eq, wordPositions]
  simp only [Page.positionsFrom_zero, Line.positionsFrom_zero, Phrase.positionsFrom_zero]

theorem length_positionsFrom_start (d : Document) :
    (d.positionsFrom .start).length = d.wordCount := by
  rw [positionsFrom_start, length_flatMap_eq_total]
  simp only [Page.length_positionsFrom_zero]
  exact total_zipIdx Page.wordCount d.pages 0

theorem wordCount_eq_zero_iff (d : Document) : d.wordCount = 0 ↔ d.isBlank := by
  rw [wordCount, total_eq_zero_iff, isBlank, List.all_eq_true]
  simp only [Page.isBlank, beq_iff_eq]

/-- The run of a page stands behind the words of the pages before it. -/
theorem exists_positionsFrom_start_eq_append (h : d.pages[i]? = some page) : ∃ before after,
    d.positionsFrom .start = before ++ (page.positionsFrom i 0 0 0 ++ after) ∧
      before.length = total Page.wordCount (d.pages.take i) := by
  obtain ⟨hi, hpage⟩ := List.getElem?_eq_some_iff.mp h
  have hsplit : d.pages = d.pages.take i ++ page :: d.pages.drop (i + 1) := by
    rw [← hpage, ← List.drop_eq_getElem_cons hi, List.take_append_drop]
  have hlength : 0 + (d.pages.take i).length = i := by
    rw [Nat.zero_add, List.length_take, Nat.min_eq_left (Nat.le_of_lt hi)]
  refine ⟨(d.pages.take i).zipIdx.flatMap fun (p, i) => p.positionsFrom i 0 0 0,
    ((d.pages.drop (i + 1)).zipIdx (i + 1)).flatMap fun (p, i) => p.positionsFrom i 0 0 0, ?_, ?_⟩
  · rw [positionsFrom_start]
    conv => lhs; rw [hsplit]
    rw [List.zipIdx_append, List.zipIdx_cons, hlength, List.flatMap_append, List.flatMap_cons]
  · rw [length_flatMap_eq_total]
    simp only [Page.length_positionsFrom_zero]
    exact total_zipIdx Page.wordCount (d.pages.take i) 0

/-- The run of a page is what the walk meets on this page. -/
theorem filter_page_positionsFrom_start (h : d.pages[i]? = some page) :
    (d.positionsFrom .start).filter (·.page = i) = page.positionsFrom i 0 0 0 := by
  refine Cursor.eq_of_pairwise_lt ((d.pairwise_positionsFrom _).filter _)
    (page.pairwise_positionsFrom ..) fun c => ?_
  rw [List.mem_filter, mem_positionsFrom, Page.mem_positionsFrom, decide_eq_true_eq,
    isSome_wordAt?_iff]
  simp only [phraseAt?_eq_some_iff]
  constructor
  · rintro ⟨⟨⟨q, ⟨page', hpage', l, hl, hq⟩, hlt⟩, _⟩, rfl⟩
    obtain rfl : page' = page := Option.some.inj (hpage'.symm.trans h)
    exact ⟨rfl, ⟨l, hl, q, hq, hlt⟩, by omega⟩
  · rintro ⟨rfl, ⟨l, hl, q, hq, hlt⟩, _⟩
    refine ⟨⟨⟨q, ⟨page, h, l, hl, hq⟩, hlt⟩, ?_⟩, rfl⟩
    rw [Cursor.le_iff]
    simp only [Cursor.start]
    omega

/-- The walk from a cursor, which need not name a word, meets the words that are not before it, each
once and in reading order: it is the walk from the start without what is before the cursor.  The walk
from the start is as long as the document has words, so that it is empty if and only if all pages are
blank, and the words of each page are the run of as many as the page counts behind those of the pages
before it. -/
theorem positionsFrom_exact (d : Document) (s : Cursor) :
    (d.positionsFrom s).Pairwise (· < ·) ∧
    (∀ c, c ∈ d.positionsFrom s ↔ (d.wordAt? c).isSome ∧ s ≤ c) ∧
    d.positionsFrom s = (d.positionsFrom .start).filter (s ≤ ·) ∧
    (d.positionsFrom .start).length = d.wordCount ∧
    (d.positionsFrom .start = [] ↔ d.isBlank) ∧
    ∀ i page, d.pages[i]? = some page →
      let behind := (d.positionsFrom .start).drop (total Page.wordCount (d.pages.take i))
      behind.take page.wordCount = (d.positionsFrom .start).filter (·.page = i) ∧
        (behind.take page.wordCount).length = page.wordCount := by
  have hfilter : d.positionsFrom s = (d.positionsFrom .start).filter (s ≤ ·) := by
    rw [← wordPositions_eq]
    exact d.positionsFrom_eq_filter s
  refine ⟨d.pairwise_positionsFrom s, fun c => mem_positionsFrom, hfilter,
    d.length_positionsFrom_start, ?_, fun i page hpage => ?_⟩
  · rw [List.eq_nil_iff_length_eq_zero, length_positionsFrom_start, wordCount_eq_zero_iff]
  · obtain ⟨before, after, hwalk, hbefore⟩ := exists_positionsFrom_start_eq_append hpage
    have hrun := page.length_positionsFrom_zero i
    have htake : ((d.positionsFrom .start).drop (total Page.wordCount (d.pages.take i))).take
        page.wordCount = page.positionsFrom i 0 0 0 := by
      rw [hwalk, List.drop_left' hbefore, List.take_left' hrun]
    exact ⟨htake.trans (filter_page_positionsFrom_start hpage).symm, htake ▸ hrun⟩

/-- A page with one phrase of so many equal words. -/
def pageOf (count : Nat) : Page :=
  ⟨[⟨[⟨"", {}, List.replicate count ⟨"x", {}⟩⟩]⟩]⟩

/-- Three pages, of which the second is blank. -/
def gapped : Document := ⟨[pageOf 2, ⟨[]⟩, pageOf 1]⟩

/-- A cursor behind the end of the first page leads over the blank page to the last word. -/
theorem positionsFrom_exact_gapped :
    gapped.pages[2]? = some (pageOf 1) ∧ gapped.wordAt? ⟨0, 0, 0, 7⟩ = none ∧
      gapped.positionsFrom ⟨0, 0, 0, 7⟩ = [⟨2, 0, 0, 0⟩] ∧
      (gapped.positionsFrom .start).length = 3 ∧
      ((gapped.positionsFrom .start).drop 2).take 1 =
        (gapped.positionsFrom .start).filter (·.page = 2) := by
  obtain ⟨_, _, _, hlength, _, hpages⟩ := positionsFrom_exact gapped ⟨0, 0, 0, 7⟩
  obtain ⟨hrun, _⟩ := hpages 2 (pageOf 1) rfl
  exact ⟨rfl, rfl, rfl, hlength, hrun⟩

end Document

end LayoutTrail
