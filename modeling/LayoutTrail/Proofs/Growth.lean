import LayoutTrail.Proofs.Checking
import LayoutTrail.Proofs.Locality

/-!
# Documents that grow

A page put behind all others, or a line put at the end of a page that is not before what was found,
comes later than all that the trail has looked at.  It changes no result but one that there was
nothing to be found.
-/

namespace LayoutTrail

namespace Document

variable {d : Document} {b : Cursor}

theorem exists_page_of_isSome_wordAt? (h : (d.wordAt? b).isSome) :
    ∃ page, d.pages[b.page]? = some page ∧ b.line < page.lines.length := by
  obtain ⟨p, hp, _⟩ := isSome_wordAt?_iff.mp h
  obtain ⟨page, hpage, l, hl, _⟩ := phraseAt?_eq_some_iff.mp hp
  exact ⟨page, hpage, (List.getElem?_eq_some_iff.mp hl).1⟩

theorem agreeOn_addPage (h : (d.wordAt? b).isSome) (g : Page) :
    AgreeOn (· ≤ b) d (d.addPage g) := by
  intro c hc
  obtain ⟨page, hpage, _⟩ := exists_page_of_isSome_wordAt? h
  have hlt : c.page < d.pages.length := by
    have hb := (List.getElem?_eq_some_iff.mp hpage).1
    rw [Cursor.le_iff] at hc
    omega
  rw [phraseAt?, phraseAt?, addPage, List.getElem?_append_left hlt]

theorem agreeOn_addLine (h : (d.wordAt? b).isSome) {i : Nat} (hi : b.page ≤ i) (l : Line) :
    AgreeOn (· ≤ b) d (d.addLine i l) := by
  intro c hc
  rw [Cursor.le_iff] at hc
  obtain ⟨page, hpage, hline⟩ := exists_page_of_isSome_wordAt? h
  rw [phraseAt?, phraseAt?, addLine, List.getElem?_modify]
  by_cases hci : i = c.page
  · -- the position is on the page of `b`, in a line that was there before
    have hcb : c.page = b.page := by omega
    have hlt : c.line < page.lines.length := by omega
    rw [hcb, hpage]
    simp only [hci, hcb, if_true, Option.map_eq_map, Option.map_some, Option.bind_eq_bind,
      Option.bind_some, Page.addLine, List.getElem?_append_left hlt]
  · simp only [if_neg hci, Option.map_eq_map, Option.map_id_fun', id_eq]

end Document

namespace Trail

/-- What a trail finds in a document it finds there too when a page is added, or a line at the end
of the page of what it finds or of a later page. -/
theorem resolveFrom_grown (trail : Trail) (d : Document) (a : Anchor) {c : Cursor}
    (h : (trail.resolveFrom d a).cursor? = some c) :
    (∀ g : Page, trail.resolveFrom (d.addPage g) a = trail.resolveFrom d a) ∧
    (∀ (l : Line) (i : Nat), c.page ≤ i →
      trail.resolveFrom (d.addLine i l) a = trail.resolveFrom d a) := by
  obtain ⟨b, hb⟩ := Target.exists_anchor?_of_isFound (Target.isFound_of_cursor? h)
  have hword := isSome_wordAt?_of_anchor?_follow hb
  obtain rfl : b.cursor = c := Option.some.inj ((Target.cursor_of_anchor? hb).symm.trans h)
  constructor
  · intro g
    exact follow_eq_of_agree_upTo (Document.agreeOn_addPage hword g) h (Cursor.le_refl _)
  · intro l i hi
    exact follow_eq_of_agree_upTo (Document.agreeOn_addLine hword hi l) h (Cursor.le_refl _)

/-- A line with one phrase of two words. -/
def totalLine (amount : String) : Line :=
  let box : Quad := .ofEdges 0 0 0.5 0.5
  ⟨[⟨"Total " ++ amount, box, [⟨"Total", box⟩, ⟨amount, box⟩]⟩]⟩

/-- An empty page, a page with a total, and another empty page. -/
def receipt : Document := ⟨[⟨[]⟩, ⟨[totalLine "12"]⟩, ⟨[]⟩]⟩

/-- What follows the first total is not changed by a total that is added later on its page. -/
theorem resolveFrom_grown_receipt : ∃ trail,
    ofSpecs {} [⟨1, .after, "Total", .word⟩, ⟨1, .after, ".+", .phrase⟩] = .ok trail ∧
      (trail.resolveFrom receipt .seed).cursor? = some ⟨1, 0, 0, 1⟩ ∧
      trail.resolveFrom (receipt.addPage ⟨[totalLine "13"]⟩) .seed =
        trail.resolveFrom receipt .seed ∧
      trail.resolveFrom (receipt.addLine 1 (totalLine "13")) .seed =
        trail.resolveFrom receipt .seed := by
  obtain ⟨trail, htrail, hfound⟩ := exists_ok_of_map_toOption
    (show (ofSpecs {} [⟨1, .after, "Total", .word⟩, ⟨1, .after, ".+", .phrase⟩]).toOption.map
      (fun t => (t.resolveFrom receipt .seed).cursor?) = some (some ⟨1, 0, 0, 1⟩) by
      decide +kernel)
  obtain ⟨hpage, hline⟩ := resolveFrom_grown trail receipt .seed hfound
  exact ⟨trail, htrail, hfound, hpage _, hline _ 1 (Nat.le_refl 1)⟩

-- a total that is added on the page before is met first
example : ((ofSpecs {} [⟨1, .after, "Total", .word⟩, ⟨1, .after, ".+", .phrase⟩]).toOption.map
    fun t => ((t.resolveFrom receipt .seed).value,
      (t.resolveFrom (receipt.addLine 0 (totalLine "13")) .seed).value)) = some ("12", "13") := by
  decide +kernel

end Trail

end LayoutTrail
