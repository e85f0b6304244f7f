import Storyboard.Proofs.Layout.Listing
/-!
# Where placeholders are drawn

A placeholder is left out of the components of its screen, and so of the column. A stack takes in its
members without looking for placeholders, so one that a stack of the column takes in is drawn after all.

* `mem_drawn_iff`: what is drawn stands in the column, or a stack there takes it in.
* `placeholders_drawn`: which placeholders are drawn, and when none is.
-/
namespace Storyboard.Layout

open Storyboard.Markup
open Storyboard.Number (Binary64)

/-- Is the element a stack whose component stands in the column of the components? -/
def InColumn (now : Binary64) (cs : List Component) (s : Site) : Prop :=
  isStackName s.name = true ∧ ∃ t ∈ unowned cs, component? now s.element = .ok (some t)

section
variable {now : Binary64} {placeholder : String} {screen : Site} {cs : List Component}

/-- What is drawn stands in the column, or is what a member of a stack there becomes. -/
theorem mem_drawn_iff (h : screenComponents now placeholder (some screen) = .ok cs) {c : Component} :
    c ∈ nodesIn (unowned cs) ↔ c ∈ unowned cs ∨ ∃ s ∈ screen.descendants, InColumn now cs s ∧
      ∃ m ∈ members s, component? now m.element = .ok (some c) := by
  rw [mem_nodesIn]
  constructor
  · rintro ⟨t, ht, hc⟩
    rw [t.nodes_eq, List.mem_cons] at hc
    rcases hc with rfl | hc
    · exact .inl ht
    · obtain ⟨-, s, hs, hst⟩ := (mem_screenComponents h).mp (mem_unowned.mp ht).1
      obtain ⟨hstack, hm⟩ := (mem_nodesIn_children hst).mp hc
      exact .inr ⟨s, hs, ⟨hstack, t, ht, hst⟩, hm⟩
  · rintro (hc | ⟨s, -, ⟨hstack, t, ht, hst⟩, hm⟩)
    · exact ⟨c, hc, by rw [c.nodes_eq]; exact List.mem_cons_self⟩
    · have hbelow := (mem_nodesIn_children hst).mpr ⟨hstack, hm⟩
      exact ⟨t, ht, by rw [t.nodes_eq]; exact List.mem_cons_of_mem t hbelow⟩

/-- No placeholder stands in the column. -/
theorem isPlaceholder_unowned (h : screenComponents now placeholder (some screen) = .ok cs) {c : Component}
    (hc : c ∈ unowned cs) : c.isPlaceholder placeholder = false :=
  ((mem_screenComponents h).mp (mem_unowned.mp hc).1).1

theorem not_mem_unowned (h : screenComponents now placeholder (some screen) = .ok cs) {c : Component}
    (hc : c.isPlaceholder placeholder = true) : c ∉ unowned cs := by
  intro hmem
  rw [isPlaceholder_unowned h hmem] at hc
  cases hc

/-- A placeholder is drawn exactly if a stack of the column takes it in. -/
theorem placeholder_drawn_iff (h : screenComponents now placeholder (some screen) = .ok cs)
    {c : Component} (hc : c.isPlaceholder placeholder = true) :
    c ∈ nodesIn (unowned cs) ↔ ∃ s ∈ screen.descendants, InColumn now cs s ∧
      ∃ m ∈ members s, component? now m.element = .ok (some c) := by
  rw [mem_drawn_iff h]
  exact or_iff_right (not_mem_unowned h hc)

theorem isMapped_of_placeholder {text : String} {e : Element} (h : isPlaceholderLabel text e = true) :
    isMapped e = true := by
  unfold isPlaceholderLabel at h
  simp only [Bool.and_eq_true, beq_iff_eq] at h
  rw [isMapped_eq, h.1.1]
  rfl

end

/-- **Which placeholders are drawn.** A placeholder is drawn exactly if a stack of the column takes it in,
and never elsewhere. So none is drawn exactly if no element that a stack of the column takes in is a
placeholder label. -/
theorem placeholders_drawn (now : Binary64) (placeholder : String) (screen : Site) (cs : List Component)
    (h : screenComponents now placeholder (some screen) = .ok cs) :
    (∀ c, c.isPlaceholder placeholder = true → c ∉ unowned cs ∧
      (c ∈ nodesIn (unowned cs) ↔ ∃ s ∈ screen.descendants, InColumn now cs s ∧
        ∃ m ∈ members s, component? now m.element = .ok (some c))) ∧
    ((∀ c ∈ nodesIn (unowned cs), c.isPlaceholder placeholder = false) ↔
      ∀ s ∈ screen.descendants, InColumn now cs s →
        ∀ m ∈ members s, isPlaceholderLabel placeholder m.element = false) := by
  constructor
  · exact fun c hc => ⟨not_mem_unowned h hc, placeholder_drawn_iff h hc⟩
  · constructor
    · intro hnone s hs hcolumn m hm
      by_contra hyes
      rw [Bool.not_eq_false] at hyes
      obtain ⟨c, hmc⟩ := exists_component h (mem_descendants_of_members hs hm)
        (isMapped_of_placeholder hyes)
      have hdrawn : c ∈ nodesIn (unowned cs) := (mem_drawn_iff h).mpr (.inr ⟨s, hs, hcolumn, m, hm, hmc⟩)
      have hc : c.isPlaceholder placeholder = true := by rw [isPlaceholder_component hmc, hyes]
      rw [hnone c hdrawn] at hc
      cases hc
    · intro hnone c hc
      rcases (mem_drawn_iff h).mp hc with hc | ⟨s, hs, hcolumn, m, hm, hmc⟩
      · exact isPlaceholder_unowned h hc
      · rw [isPlaceholder_component hmc]
        exact hnone s hs hcolumn m hm

/-- A row that holds a label for a text to come, squeezed to no height. -/
def squeezedRow : Site :=
  plainScreen [plain "stackView" [("id", "s")] [plain "subviews" []
    [plain "label" [("id", "l"), ("text", "Welcome! Please login")]
      [plain "rect" [("key", "frame"), ("height", "1")] []]]]]

theorem placeholders_drawn_squeezedRow : ∃ cs,
    screenComponents 42 "Welcome! Please login" (some squeezedRow) = .ok cs ∧
    (unowned cs).map Component.id = ["s"] ∧
    ((∀ c ∈ nodesIn (unowned cs), c.isPlaceholder "Welcome! Please login" = false) ↔
      ∀ s ∈ squeezedRow.descendants, InColumn 42 cs s →
        ∀ m ∈ members s, isPlaceholderLabel "Welcome! Please login" m.element = false) :=
  ⟨_, rfl, by decide +kernel, (placeholders_drawn 42 "Welcome! Please login" squeezedRow _ rfl).2⟩

/-- The row draws the label that is left out beside it. -/
theorem placeholder_drawn_in_row : ¬∀ (now : Binary64) (placeholder : String) (screen : Site)
    (cs : List Component), screenComponents now placeholder (some screen) = .ok cs →
      ∀ c ∈ nodesIn (unowned cs), c.isPlaceholder placeholder = false := by
  intro hnone
  have hdrawn : ∃ cs, screenComponents 42 "Welcome! Please login" (some squeezedRow) = .ok cs ∧
      (nodesIn (unowned cs)).any (·.isPlaceholder "Welcome! Please login") = true :=
    ⟨_, rfl, by decide +kernel⟩
  obtain ⟨cs, hcs, hany⟩ := hdrawn
  obtain ⟨c, hc, hplaceholder⟩ := List.any_eq_true.mp hany
  rw [hnone 42 "Welcome! Please login" squeezedRow cs hcs c hc] at hplaceholder
  cases hplaceholder

end Storyboard.Layout
