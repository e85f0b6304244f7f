import Storyboard.Layout.Ownership
import Storyboard.Proofs.Layout.Screens
import Storyboard.Proofs.Markup.Plain
/-!
# What a screen draws

A horizontal stack draws its children, so these are left out of the column of the screen. Nothing is
lost that way as long as ids tell the mapped elements of a screen apart: what is left out is a child
of a stack, and if that stack is left out as well, it is a child of one further up.

* `mem_nodesIn`, `mem_nodesIn_of_child`: the nodes of components, and what these hold.
* `site_of_mem_nodesIn`: whatever a screen draws is the component of an element below it.
* `mem_nodesIn_children`: what a stack holds at any depth are the components of its members.
* `mem_unowned`, `mem_owned`: what stays in the column, and what is left out.
* `screen_drawn`: every component of a screen is drawn, at some depth.
-/
namespace Storyboard.Layout

open Storyboard.Markup
open Storyboard.Number (Binary64)

/-! ## Trees of components -/

/-- What a component holds directly. -/
def Component.children : Component → List Component
  | .stack _ _ children => children
  | _ => []

mutual

/-- The component and everything it holds, at any depth. -/
def Component.nodes : Component → List Component
  | .stack axis p children => .stack axis p children :: nodesIn children
  | .control kind p => [.control kind p]
  | .spacer height id => [.spacer height id]

def nodesIn : List Component → List Component
  | [] => []
  | c :: rest => c.nodes ++ nodesIn rest

end

theorem Component.nodes_eq (c : Component) : c.nodes = c :: nodesIn c.children := by
  cases c <;> simp [Component.nodes, Component.children, nodesIn]

theorem mem_nodesIn {c : Component} {cs : List Component} :
    c ∈ nodesIn cs ↔ ∃ t ∈ cs, c ∈ t.nodes := by
  induction cs with
  | nil => simp [nodesIn]
  | cons t rest ih => simp [nodesIn, ih]

mutual

/-- What a node of a component holds is a node of it too. -/
theorem Component.mem_nodes_of_child : ∀ (t : Component) {c n : Component}, n ∈ t.nodes →
    c ∈ n.children → c ∈ t.nodes
  | .stack axis p children, c, n, hn, hc => by
    simp only [Component.nodes, List.mem_cons] at hn ⊢
    right
    rcases hn with rfl | hn
    · exact mem_nodesIn.mpr ⟨c, hc, by rw [c.nodes_eq]; exact List.mem_cons_self⟩
    · exact mem_nodesIn_of_child children hn hc
  | .control kind p, c, n, hn, hc => by
    simp only [Component.nodes, List.mem_singleton] at hn
    subst hn
    cases hc
  | .spacer height id, c, n, hn, hc => by
    simp only [Component.nodes, List.mem_singleton] at hn
    subst hn
    cases hc

theorem mem_nodesIn_of_child : ∀ (cs : List Component) {c n : Component}, n ∈ nodesIn cs →
    c ∈ n.children → c ∈ nodesIn cs
  | [], _, _, hn, _ => by simp [nodesIn] at hn
  | t :: rest, c, n, hn, hc => by
    simp only [nodesIn, List.mem_append] at hn ⊢
    exact hn.imp (t.mem_nodes_of_child · hc) (mem_nodesIn_of_child rest · hc)

end

/-! ## Nodes and their elements -/

section
variable {now : Binary64}

mutual

/-- What holds of a site and passes to members holds of the sites of all that its component holds. -/
theorem Component.exists_site {P : Site → Prop} (hmembers : ∀ s, P s → ∀ m ∈ members s, P m) :
    ∀ (t : Component) {s : Site} {n : Component}, P s →
    component? now s.element = .ok (some t) → n ∈ t.nodes →
    ∃ u, P u ∧ component? now u.element = .ok (some n)
  | .stack axis p children, s, n, hs, ht, hn => by
    simp only [Component.nodes, List.mem_cons] at hn
    rcases hn with rfl | hn
    · exact ⟨s, hs, ht⟩
    · obtain ⟨-, -, mapped, hmapped, hch⟩ := component?_stack ht
      refine exists_site_of_nodesIn hmembers children (fun c hc => ?_) hn
      rw [hch] at hc
      obtain ⟨m, hm, hmc⟩ := (mem_filterMap_results hmapped).mp hc
      exact ⟨m, hmembers s hs m hm, hmc⟩
  | .control kind p, s, n, hs, ht, hn => by
    simp only [Component.nodes, List.mem_singleton] at hn
    exact ⟨s, hs, hn ▸ ht⟩
  | .spacer height i, s, n, hs, ht, hn => by
    simp only [Component.nodes, List.mem_singleton] at hn
    exact ⟨s, hs, hn ▸ ht⟩

theorem exists_site_of_nodesIn {P : Site → Prop} (hmembers : ∀ s, P s → ∀ m ∈ members s, P m) :
    ∀ (cs : List Component) {n : Component}, (∀ c ∈ cs, ∃ s, P s ∧ component? now s.element = .ok (some c)) →
    n ∈ nodesIn cs → ∃ u, P u ∧ component? now u.element = .ok (some n)
  | [], _, _, hn => by simp [nodesIn] at hn
  | t :: rest, n, hcs, hn => by
    simp only [nodesIn, List.mem_append] at hn
    rcases hn with hn | hn
    · obtain ⟨s, hs, ht⟩ := hcs t List.mem_cons_self
      exact t.exists_site hmembers hs ht hn
    · exact exists_site_of_nodesIn hmembers rest (fun c hc => hcs c (List.mem_cons_of_mem t hc)) hn

end

/-- Whatever components hold, at any depth, is the component of an element below the screen if they
are. -/
theorem site_of_mem_nodesIn {screen : Site} {cs : List Component} {n : Component}
    (hcs : ∀ c ∈ cs, ∃ s ∈ screen.descendants, component? now s.element = .ok (some c))
    (hn : n ∈ nodesIn cs) : ∃ u ∈ screen.descendants, component? now u.element = .ok (some n) :=
  exists_site_of_nodesIn (P := (· ∈ screen.descendants))
    (fun _ hs _ hm => mem_descendants_of_members hs hm) cs hcs hn

/-- A stack takes in the members of the stacks in it as well, so what it holds at any depth are the
components of its own members. -/
theorem mem_nodesIn_children {s : Site} {t c : Component}
    (ht : component? now s.element = .ok (some t)) : c ∈ nodesIn t.children ↔
      isStackName s.name = true ∧ ∃ m ∈ members s, component? now m.element = .ok (some c) := by
  rcases component?_cases ht with
    ⟨hstack, p, children, -, -, hc⟩ | ⟨hno, _, kind, p, -, -, -, hc⟩ | ⟨-, hc⟩
  · cases hc
    obtain ⟨-, -, mapped, hmapped, hch⟩ := component?_stack ht
    have hresults : ∀ c, c ∈ children ↔
        ∃ m ∈ members s, component? now m.element = .ok (some c) := by
      intro c
      rw [hch]
      exact mem_filterMap_results hmapped
    have hclosed : ∀ m, m ∈ members s → ∀ n ∈ members m, n ∈ members s := fun m hm n hn =>
      Site.mem_descendantsUnder_trans ((members_sublist s).subset hm) hn
    constructor
    · intro hmem
      exact ⟨hstack, exists_site_of_nodesIn hclosed children (fun c hc => (hresults c).mp hc) hmem⟩
    · rintro ⟨-, hm⟩
      exact mem_nodesIn.mpr
        ⟨c, (hresults c).mpr hm, by rw [c.nodes_eq]; exact List.mem_cons_self⟩
  · cases hc
    simp [Component.children, nodesIn, Site.name, hno]
  · cases hc

end

/-! ## The column of a screen -/

theorem mem_unowned {c : Component} {cs : List Component} :
    c ∈ unowned cs ↔ c ∈ cs ∧ c.id ∉ owned cs := by
  simp [unowned]

/-- What is left out has an id, that of a child of a horizontal stack. -/
theorem mem_owned {cs : List Component} {i : String} :
    i ∈ owned cs ↔ i ≠ "" ∧ ∃ p children, Component.stack .horizontal p children ∈ cs ∧
      ∃ c ∈ children, c.id = i := by
  simp only [owned, List.mem_flatMap]
  constructor
  · rintro ⟨s, hs, hi⟩
    match s, hs, hi with
    | .stack .horizontal p children, hs, hi =>
      simp only [Component.owned, List.mem_filter, List.mem_map, bne_iff_ne, ne_eq] at hi
      obtain ⟨⟨c, hc, rfl⟩, hne⟩ := hi
      exact ⟨hne, p, children, hs, c, hc, rfl⟩
    | .stack .vertical _ _, _, hi => simp [Component.owned] at hi
    | .control _ _, _, hi => simp [Component.owned] at hi
    | .spacer _ _, _, hi => simp [Component.owned] at hi
  · rintro ⟨hne, p, children, hs, c, hc, rfl⟩
    refine ⟨_, hs, ?_⟩
    simp only [Component.owned, List.mem_filter, List.mem_map, bne_iff_ne, ne_eq]
    exact ⟨⟨c, hc, rfl⟩, hne⟩

/-- The ids of the components of the elements below a screen, in document order, also those that are
empty. -/
def componentIds (screen : Site) : List String :=
  (screen.descendants.filter (isMapped ·.element)).map (elementId ·.element)

/-- No two mapped elements below the screen share an id that is not empty. -/
def DistinctIds (screen : Site) : Prop := ((componentIds screen).filter (· != "")).Nodup

instance (screen : Site) : Decidable (DistinctIds screen) :=
  inferInstanceAs (Decidable (List.Nodup _))

/-- Where ids are distinct, an id that is not empty belongs to one mapped element. -/
theorem DistinctIds.eq_of_id {screen : Site} (hd : DistinctIds screen) {s t : Site}
    (hs : s ∈ screen.descendants) (ht : t ∈ screen.descendants) (hms : isMapped s.element = true)
    (hmt : isMapped t.element = true) (hne : elementId s.element ≠ "")
    (h : elementId s.element = elementId t.element) : s = t := by
  unfold DistinctIds componentIds at hd
  rw [List.filter_map, List.filter_filter] at hd
  refine List.inj_on_of_nodup_map hd ?_ ?_ h
  · simp [hs, hms, hne]
  · simp [ht, hmt, h ▸ hne]

theorem isMapped_of_component? {now : Binary64} {e : Element} {c : Component}
    (h : component? now e = .ok (some c)) : isMapped e = true := by
  rw [← component?_isSome h]; rfl

/-- Each mapped element below a screen has a component. -/
theorem exists_component {now : Binary64} {placeholder : String} {screen : Site}
    {cs : List Component} (h : screenComponents now placeholder (some screen) = .ok cs) {s : Site}
    (hs : s ∈ screen.descendants) (hm : isMapped s.element = true) :
    ∃ n, component? now s.element = .ok (some n) := by
  obtain ⟨mapped, hmapped, -⟩ := screenComponents_perm h
  obtain ⟨c?, -, hc⟩ := exists_left_of_forall₂ hmapped.flip hs
  have hsome := component?_isSome hc
  rw [hm, Option.isSome_iff_exists] at hsome
  obtain ⟨n, rfl⟩ := hsome
  exact ⟨n, hc⟩

/-- **Nothing is lost.** Each component of the screen is drawn: it stands in the column, or a stack
above it does and holds it. By induction on the depth of its element, since a stack that holds it
comes from an element further up. -/
theorem mem_nodesIn_unowned {now : Binary64} {placeholder : String} {screen : Site}
    {cs : List Component} (h : screenComponents now placeholder (some screen) = .ok cs)
    (hd : DistinctIds screen) {c : Component} (hc : c ∈ cs) : c ∈ nodesIn (unowned cs) := by
  obtain ⟨-, x, hx, hxc⟩ := (mem_screenComponents h).mp hc
  induction hn : x.path.length using Nat.strongRecOn generalizing x c with
  | ind n ih =>
  by_cases hown : c.id ∈ owned cs
  · obtain ⟨hne, p, children, hs, child, hchild, hid⟩ := mem_owned.mp hown
    obtain ⟨-, s, hsd, hsc⟩ := (mem_screenComponents h).mp hs
    obtain ⟨-, -, mapped, hmapped, rfl⟩ := component?_stack hsc
    obtain ⟨m, hm, hmc⟩ := (mem_filterMap_results hmapped).mp hchild
    have hmd := mem_descendants_of_members hsd hm
    -- the child and the component come from one element, so they are one component
    have hmx : m = x := by
      refine hd.eq_of_id hmd hx (isMapped_of_component? hmc) (isMapped_of_component? hxc) ?_ ?_
      · rw [← component?_id hmc, hid]; exact hne
      · rw [← component?_id hmc, ← component?_id hxc, hid]
    subst hmx
    rw [hxc] at hmc
    cases hmc
    have hlt := Site.length_path_lt ((members_sublist s).subset hm)
    exact mem_nodesIn_of_child _ (ih _ (hn ▸ hlt) hs s hsd hsc rfl) hchild
  · exact mem_nodesIn.mpr ⟨c, mem_unowned.mpr ⟨hc, hown⟩, by rw [c.nodes_eq]; exact List.mem_cons_self⟩

/-- **Every component of a screen is drawn.** If no two mapped elements below a screen share an id, each
component of the screen is one of the column or a node of one of the column, at some depth. -/
theorem screen_drawn (now : Binary64) (placeholder : String) (screen : Site) (cs : List Component)
    (h : screenComponents now placeholder (some screen) = .ok cs) (hd : DistinctIds screen) :
    ∀ c ∈ cs, ∃ t ∈ unowned cs, c ∈ t.nodes :=
  fun _ hc => mem_nodesIn.mp (mem_nodesIn_unowned h hd hc)

/-- A label in a row in a row. -/
def nestedRows : Site :=
  plainScreen [plain "stackView" [("id", "a")] [plain "subviews" []
    [plain "stackView" [("id", "b")] [plain "subviews" [] [plain "label" [("id", "c")] []]]]]]

theorem screen_drawn_nestedRows : ∃ cs, screenComponents 42 "" (some nestedRows) = .ok cs ∧
    cs.map Component.id = ["a", "b", "c"] ∧ (unowned cs).map Component.id = ["a"] ∧
    ∀ c ∈ cs, ∃ t ∈ unowned cs, c ∈ t.nodes :=
  ⟨_, rfl, by decide +kernel, by decide +kernel,
    screen_drawn 42 "" nestedRows _ rfl (by decide +kernel)⟩

end Storyboard.Layout
