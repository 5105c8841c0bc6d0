import LayoutTrail.Proofs.Checking
import LayoutTrail.Proofs.Locality

/-!
# Pages put in front

A search does not know how many pages lie before its anchor: with pages put in front it finds the
same, that many pages later.  As it does not look at what comes before its anchor either, these pages
and the lines above the anchor may be any.
-/

namespace LayoutTrail

/-- The same position `n` pages later. -/
def Cursor.pagesLater (n : Nat) (c : Cursor) : Cursor := { c with page := c.page + n }

/-- The same place on another page. -/
def Anchor.onPage (a : Anchor) (page : Nat) : Anchor :=
  { a with cursor := { a.cursor with page := page } }

def Anchor.pagesLater (n : Nat) (a : Anchor) : Anchor := { a with cursor := a.cursor.pagesLater n }

def Candidate.pagesLater (n : Nat) : Candidate → Candidate
  | word c w => word (c.pagesLater n) w
  | phrase c p => phrase (c.pagesLater n) p

/-- The same target `n` pages later; what was not found is nowhere. -/
def Target.pagesLater (n : Nat) : Target → Target
  | notFound => notFound
  | word m => word { m with cursor := m.cursor.pagesLater n }
  | phrase m => phrase { m with cursor := m.cursor.pagesLater n }

/-- A document with pages put in front. -/
def Document.precededBy (d : Document) (pages : List Page) : Document := ⟨pages ++ d.pages⟩

namespace Cursor

variable {n : Nat} {c e : Cursor}

@[simp] theorem pagesLater_lt_iff : c.pagesLater n < e.pagesLater n ↔ c < e := by
  simp only [lt_iff, pagesLater]
  omega

@[simp] theorem pagesLater_inj : c.pagesLater n = e.pagesLater n ↔ c = e := by
  simp only [eq_iff, pagesLater]
  omega

@[simp] theorem pagesLater_le_iff : c.pagesLater n ≤ e.pagesLater n ↔ c ≤ e := by
  simp only [le_iff, pagesLater]
  omega

@[simp] theorem lineKey_pagesLater_eq_iff :
    (c.pagesLater n).lineKey = (e.pagesLater n).lineKey ↔ c.lineKey = e.lineKey := by
  simp only [lineKey_eq_iff, pagesLater, Nat.add_right_cancel_iff]

@[simp] theorem phraseKey_pagesLater_eq_iff :
    (c.pagesLater n).phraseKey = (e.pagesLater n).phraseKey ↔ c.phraseKey = e.phraseKey := by
  simp only [phraseKey_eq_iff, pagesLater, Nat.add_right_cancel_iff]

theorem pagesLater_comm (n m : Nat) (c : Cursor) :
    (c.pagesLater n).pagesLater m = (c.pagesLater m).pagesLater n := by
  simp only [pagesLater, Nat.add_right_comm]

/-- A position that is not on the first `n` pages is `n` pages later than another. -/
theorem exists_pagesLater_eq (h : n ≤ c.page) : ∃ e : Cursor, e.pagesLater n = c :=
  ⟨{ c with page := c.page - n }, by simp only [pagesLater, Nat.sub_add_cancel h]⟩

end Cursor

namespace Anchor

variable {n : Nat}

@[simp] theorem cursor_pagesLater (a : Anchor) :
    (a.pagesLater n).cursor = a.cursor.pagesLater n := rfl

@[simp] theorem consumes_pagesLater (a : Anchor) : (a.pagesLater n).consumes = a.consumes := rfl

end Anchor

namespace Candidate

variable {n : Nat}

@[simp] theorem cursor_pagesLater (x : Candidate) :
    (x.pagesLater n).cursor = x.cursor.pagesLater n := by
  cases x <;> rfl

@[simp] theorem text_pagesLater (x : Candidate) : (x.pagesLater n).text = x.text := by
  cases x <;> rfl

@[simp] theorem span_pagesLater (x : Candidate) : (x.pagesLater n).span = x.span := by
  cases x <;> rfl

theorem target_pagesLater (x : Candidate) :
    (x.pagesLater n).target = x.target.pagesLater n := by
  cases x with
  | word c w => rfl
  | phrase c p =>
    have hword : (c.pagesLater n).word = c.word := rfl
    simp only [pagesLater, target, hword]
    cases p.split? c.word <;> rfl

end Candidate

namespace Target

variable {n : Nat}

theorem pagesLater_comm (n m : Nat) (t : Target) :
    (t.pagesLater n).pagesLater m = (t.pagesLater m).pagesLater n := by
  cases t <;> simp only [pagesLater, Cursor.pagesLater_comm n m]

@[simp] theorem pagesLater_eq_notFound_iff {t : Target} :
    t.pagesLater n = notFound ↔ t = notFound := by
  cases t <;> simp only [pagesLater, reduceCtorEq]

theorem anchor?_pagesLater (t : Target) :
    (t.pagesLater n).anchor? = t.anchor?.map (Anchor.pagesLater n) := by
  cases t <;> rfl

end Target

namespace Document

theorem phraseAt?_precededBy (d : Document) (ps : List Page) (c : Cursor) :
    (d.precededBy ps).phraseAt? (c.pagesLater ps.length) = d.phraseAt? c := by
  have hpage : (ps ++ d.pages)[c.page + ps.length]? = d.pages[c.page]? := by
    rw [List.getElem?_append_right (Nat.le_add_left _ _), Nat.add_sub_cancel]
  rw [phraseAt?, phraseAt?, precededBy, Cursor.pagesLater, hpage]

theorem wordAt?_precededBy (d : Document) (ps : List Page) (c : Cursor) :
    (d.precededBy ps).wordAt? (c.pagesLater ps.length) = d.wordAt? c := by
  rw [wordAt?, wordAt?, phraseAt?_precededBy]
  rfl

theorem remaining_precededBy (d : Document) (ps : List Page) (a : Anchor) :
    (a.pagesLater ps.length).remaining (d.precededBy ps) =
      (a.remaining d).map (Cursor.pagesLater ps.length) := by
  have hmem (e : Cursor) : e.pagesLater ps.length ∈
      (a.pagesLater ps.length).remaining (d.precededBy ps) ↔ e ∈ a.remaining d := by
    simp only [mem_remaining, wordAt?_precededBy, Anchor.consumes_pagesLater,
      Anchor.cursor_pagesLater, Cursor.pagesLater_le_iff, ne_eq, Cursor.pagesLater_inj]
  refine Cursor.eq_of_pairwise_lt (pairwise_remaining _ _) ?_ fun c => ?_
  · exact List.pairwise_map.mpr
      ((pairwise_remaining d a).imp fun h => Cursor.pagesLater_lt_iff.mpr h)
  · rw [List.mem_map]
    constructor
    · intro hc
      -- what remains is not before the anchor, so not on the pages put in front
      have hpage : ps.length ≤ c.page := by
        have hle := (mem_remaining.mp hc).2.1
        simp only [Cursor.le_iff, Anchor.pagesLater, Cursor.pagesLater] at hle
        omega
      obtain ⟨e, rfl⟩ := Cursor.exists_pagesLater_eq hpage
      exact ⟨e, (hmem e).mp hc, rfl⟩
    · rintro ⟨e, he, rfl⟩
      exact (hmem e).mpr he

theorem offered_precededBy (d : Document) (ps : List Page) (unit : TextUnit) (cs : List Cursor) :
    (d.precededBy ps).offered unit (cs.map (Cursor.pagesLater ps.length)) =
      (d.offered unit cs).map (Candidate.pagesLater ps.length) := by
  cases unit with
  | word =>
    simp only [offered, List.filterMap_map, List.map_filterMap]
    congr 1
    funext c
    simp only [Function.comp_apply, wordAt?_precededBy, Option.map_map]
    rfl
  | phrase =>
    simp only [offered, List.filter_map, List.filterMap_map, List.map_filterMap]
    have hfirst : (fun c => decide (∀ e ∈ cs.map (Cursor.pagesLater ps.length), e < c →
        e.phraseKey ≠ c.phraseKey)) ∘ Cursor.pagesLater ps.length =
          fun c => decide (∀ e ∈ cs, e < c → e.phraseKey ≠ c.phraseKey) := by
      funext c
      simp only [Function.comp_apply, List.forall_mem_map, Cursor.pagesLater_lt_iff, ne_eq,
        Cursor.phraseKey_pagesLater_eq_iff]
    rw [hfirst]
    congr 1
    funext c
    simp only [Function.comp_apply, phraseAt?_precededBy, Option.map_map]
    rfl

end Document

namespace Step

variable {n : Nat}

theorem qualifies_pagesLater (step : Step) (reference : Span) (xs : List Candidate)
    (x : Candidate) :
    step.qualifies reference (xs.map (Candidate.pagesLater n)) (x.pagesLater n) =
      step.qualifies reference xs x := by
  simp only [qualifies, Candidate.text_pagesLater, Candidate.span_pagesLater, List.forall_mem_map,
    Candidate.cursor_pagesLater, Cursor.pagesLater_lt_iff, Cursor.lineKey_pagesLater_eq_iff]

theorem qualifying_precededBy (step : Step) (d : Document) (ps : List Page) (a : Anchor) :
    step.qualifying (d.precededBy ps) (a.pagesLater ps.length) =
      (step.qualifying d a).map (Candidate.pagesLater ps.length) := by
  simp only [qualifying, Document.remaining_precededBy, Document.offered_precededBy,
    List.filter_map]
  congr 1
  refine List.filter_congr fun x _ => ?_
  exact step.qualifies_pagesLater _ _ x

/-- With pages put in front a step finds the same, that many pages later. -/
theorem resolve_precededBy (step : Step) (d : Document) (ps : List Page) (a : Anchor) :
    step.resolve (d.precededBy ps) (a.pagesLater ps.length) =
      (step.resolve d a).pagesLater ps.length := by
  rw [resolve, resolve, choose_candidates, choose_candidates, Anchor.consumes_pagesLater,
    Anchor.cursor_pagesLater, Document.wordAt?_precededBy, qualifying_precededBy, List.getElem?_map]
  by_cases hout : a.consumes && (d.wordAt? a.cursor).isNone
  · rw [if_pos hout, if_pos hout]
    rfl
  · rw [if_neg hout, if_neg hout]
    cases (step.qualifying d a)[step.count - 1]? with
    | none => rfl
    | some x => exact x.target_pagesLater

end Step

namespace Trail

/-- With pages put in front steps lead to the same, that many pages later. -/
theorem follow_precededBy (d : Document) (ps : List Page) (a : Anchor) (steps : List Step) :
    follow (d.precededBy ps) (a.pagesLater ps.length) steps =
      (follow d a steps).pagesLater ps.length := by
  refine follow_of_simulation (f := Target.pagesLater ps.length)
    (R := fun a a' => a' = a.pagesLater ps.length) rfl ?_ ?_ rfl steps
  · rintro a _ rfl step
    exact step.resolve_precededBy d ps a
  · rintro a _ rfl step b hb
    exact ⟨_, by rw [Target.anchor?_pagesLater, hb, Option.map_some], rfl⟩

/-- Documents with the same pages from one on, but for its first lines, agree from the lines that
follow these on. -/
theorem agreeOn_of_lines (A A' L : List Line) (R : List Page) (hA : A.length = A'.length)
    {s : Cursor} (hs : A.length ≤ s.line) :
    Document.AgreeOn ({ s with page := 0 } ≤ ·) ⟨⟨A ++ L⟩ :: R⟩ ⟨⟨A' ++ L⟩ :: R⟩ := by
  intro c hc
  rw [Document.phraseAt?, Document.phraseAt?]
  cases hp : c.page with
  | zero =>
    have hline : A.length ≤ c.line := by
      rw [Cursor.le_iff] at hc
      simp only at hc
      omega
    have hline' : A'.length ≤ c.line := hA ▸ hline
    simp only [List.getElem?_cons_zero, Option.bind_eq_bind, Option.bind_some,
      List.getElem?_append_right hline, List.getElem?_append_right hline', hA]
  | succ k => rfl

/-- What a trail leads to from an anchor depends neither on the pages before that of the anchor nor on
the lines above a line that is not after the anchor, but for their number: with others it leads to the
same, as many pages earlier or later as the anchor is, or to nothing in both documents. -/
theorem resolveFrom_page_shift (trail : Trail) (P₁ P₂ R : List Page) (A₁ A₂ L : List Line)
    (hA : A₁.length = A₂.length) (a : Anchor) (ha : A₁.length ≤ a.cursor.line) :
    let r₁ := trail.resolveFrom ⟨P₁ ++ [⟨A₁ ++ L⟩] ++ R⟩ (a.onPage P₁.length)
    let r₂ := trail.resolveFrom ⟨P₂ ++ [⟨A₂ ++ L⟩] ++ R⟩ (a.onPage P₂.length)
    r₂.pagesLater P₁.length = r₁.pagesLater P₂.length ∧ (r₁ = .notFound ↔ r₂ = .notFound) := by
  intro r₁ r₂
  -- both are the same search from page zero, in documents that agree from the anchor on
  have hshift (P : List Page) (A : List Line) :
      trail.resolveFrom ⟨P ++ [⟨A ++ L⟩] ++ R⟩ (a.onPage P.length) =
        (trail.resolveFrom ⟨⟨A ++ L⟩ :: R⟩ (a.onPage 0)).pagesLater P.length := by
    have hd : (⟨P ++ [⟨A ++ L⟩] ++ R⟩ : Document) = (⟨⟨A ++ L⟩ :: R⟩ : Document).precededBy P := by
      rw [Document.precededBy, List.append_assoc, List.singleton_append]
    have hpage : a.onPage P.length = (a.onPage 0).pagesLater P.length := by
      simp only [Anchor.onPage, Anchor.pagesLater, Cursor.pagesLater, Nat.zero_add]
    rw [hd, hpage]
    exact follow_precededBy _ P _ trail.steps
  have hsame : trail.resolveFrom ⟨⟨A₂ ++ L⟩ :: R⟩ (a.onPage 0) =
      trail.resolveFrom ⟨⟨A₁ ++ L⟩ :: R⟩ (a.onPage 0) :=
    follow_eq_of_agree_from (agreeOn_of_lines A₁ A₂ L R hA ha) trail.steps
  have h₁ : r₁ = _ := hshift P₁ A₁
  have h₂ : r₂ = _ := (hshift P₂ A₂).trans (by rw [hsame])
  constructor
  · rw [h₁, h₂, Target.pagesLater_comm]
  · rw [h₁, h₂, Target.pagesLater_eq_notFound_iff, Target.pagesLater_eq_notFound_iff]

/-- A line of one word. -/
def wordLine (text : String) : Line :=
  let box : Quad := .ofEdges 0 0 0.5 0.5
  ⟨[⟨text, box, [⟨text, box⟩]⟩]⟩

/-- From a word on the second line of a page, the first trail step goes to the line below and the
second to the next page, whether or not a cover comes before and whatever the first line says. -/
theorem resolveFrom_page_shift_cover :
    let L := [wordLine "Total", wordLine "12"]
    let R : List Page := [⟨[wordLine "Paid"]⟩]
    let a : Anchor := ⟨"Total", ⟨0, 1, 0, 0⟩, ⟨0, 0.5⟩⟩
    [wordLine "Draft"].length = [wordLine "Final"].length ∧
      [wordLine "Draft"].length ≤ a.cursor.line ∧
      ∃ trail, ofSpecs {} [⟨1, .below, ".+", .word⟩, ⟨1, .after, ".+", .phrase⟩] = .ok trail ∧
        let r₁ := trail.resolveFrom ⟨[] ++ [⟨[wordLine "Draft"] ++ L⟩] ++ R⟩ (a.onPage 0)
        let r₂ := trail.resolveFrom
          ⟨[⟨[wordLine "Cover"]⟩] ++ [⟨[wordLine "Final"] ++ L⟩] ++ R⟩ (a.onPage 1)
        r₁.cursor? = some ⟨1, 0, 0, 0⟩ ∧ r₂.cursor? = some ⟨2, 0, 0, 0⟩ ∧
          r₂.pagesLater 0 = r₁.pagesLater 1 ∧ (r₁ = .notFound ↔ r₂ = .notFound) := by
  intro L R a
  have hA : [wordLine "Draft"].length = [wordLine "Final"].length := rfl
  have ha : [wordLine "Draft"].length ≤ a.cursor.line := Nat.le_refl 1
  obtain ⟨trail, htrail, hfound⟩ := exists_ok_of_map_toOption
    (show (ofSpecs {} [⟨1, .below, ".+", .word⟩, ⟨1, .after, ".+", .phrase⟩]).toOption.map
      (fun t => ((t.resolveFrom ⟨[] ++ [⟨[wordLine "Draft"] ++ L⟩] ++ R⟩ (a.onPage 0)).cursor?,
        (t.resolveFrom ⟨[⟨[wordLine "Cover"]⟩] ++ [⟨[wordLine "Final"] ++ L⟩] ++ R⟩
          (a.onPage 1)).cursor?)) = some (some ⟨1, 0, 0, 0⟩, some ⟨2, 0, 0, 0⟩) by
      decide +kernel)
  obtain ⟨h₁, h₂⟩ := Prod.mk.inj hfound
  exact ⟨hA, ha, trail, htrail, h₁, h₂,
    resolveFrom_page_shift trail [] [⟨[wordLine "Cover"]⟩] R _ _ L hA a ha⟩

end Trail

end LayoutTrail
