import Mathlib.Data.List.Find
import Storyboard.Navigation.TabBar
import Storyboard.Proofs.Navigation.Determined
/-!
# One look-up for flows and tabs

A flow finds the screen of a destination among its edges, which know a view controller by its local name
and by the id that it has or falls back to. A tab finds it in the document, by the whole name and the id
that is written. Where no view controller is in a namespace and each has an id of its own, both find the
first one of that id in the document, or both find none.

* `controller?`: the first view controller of an id.
* `viewController?_edgesOf`, `site_of_mem_tabEntriesOf`: it is what a flow and what a tab finds.
* `root_unresolved_iff`, `linked_unresolved_iff`: what becomes of destinations without one.
* `resolved_alike`: the screens of flows and tabs.
-/
namespace Storyboard.Navigation

open Storyboard.Markup

/-- The first view controller in the document that has this id. -/
def controller? (d : Document) (id : String) : Option Site :=
  d.sites.find? fun s => s.name == "viewController" && s.element.ownAttribute? "id" == some id

/-- What has the local name of a view controller is in no namespace and has an id of its own. -/
def HasPlainControllers (d : Document) : Prop :=
  ∀ s ∈ d.sites, s.element.tag.name.base = "viewController" →
    s.element.tag.name.space = none ∧ (s.element.ownAttribute? "id").isSome

instance (d : Document) : Decidable (HasPlainControllers d) := List.decidableBAll _ _

/-! ## What a flow finds -/

/-- A text that does not start with a brace is a name in no namespace. -/
theorem space_eq_none_of_text {n : Name} {base : String} (h : n.text = base)
    (hbase : base.toList.head? ≠ some '\x7b') : n.space = none := by
  cases hspace : n.space with
  | none => rfl
  | some uri =>
    refine absurd ?_ hbase
    rw [← h, Name.text, hspace]
    simp

theorem isController_iff {d : Document} (hplain : HasPlainControllers d) {s : Site} (hs : s ∈ d.sites) :
    s.element.tag.name.base = "viewController" ↔ s.name = "viewController" := by
  constructor
  · intro hbase
    rw [Site.name, Element.name, Name.text, (hplain s hs hbase).1, hbase]
  · intro hname
    have hspace := space_eq_none_of_text hname (by decide)
    rwa [Site.name, Element.name, Name.text, hspace] at hname

/-- The id of an edge is the one that its element has. -/
theorem id_ofSite {kind : EdgeKind} {s : Site} (h : (s.element.ownAttribute? "id").isSome) (id : String) :
    (Edge.ofSite kind s).id = id ↔ s.element.ownAttribute? "id" = some id := by
  obtain ⟨own, hown⟩ := Option.isSome_iff_exists.mp h
  have hattribute : s.attribute? "id" = some own := by
    rw [Site.attribute?, Element.attribute?, Element.valueOf?, ← Element.ownAttribute?, hown]
    rfl
  rw [Edge.ofSite, hattribute, hown]
  simp

/-- Among the edges of a document, the first view controller of an id is made from the first one of that
id in the document. -/
theorem viewController?_edgesOf {d : Document} (hplain : HasPlainControllers d) (id : String) :
    viewController? (edgesOf d) id = (controller? d id).map (Edge.ofSite .viewController) := by
  have hedges : viewController? (edgesOf d) id =
      ((edgesOf d).filter (·.kind = .viewController)).find? (·.id = id) := by
    rw [viewController?, List.find?_filter]
    simp
  rw [hedges, filter_edgesOf, List.find?_map, EdgeKind.sites, List.find?_filter, controller?]
  refine congrArg _ (List.find?_congr fun s hs => ?_)
  rw [Bool.eq_iff_iff, decide_eq_true_iff, Bool.and_eq_true, beq_iff_eq, beq_iff_eq, beq_iff_eq,
    ← isController_iff hplain hs]
  refine and_congr_right fun hbase => ?_
  rw [Function.comp_apply, decide_eq_true_iff, id_ofSite (hplain s hs hbase).2]

/-- The view controller that is found by an id is at the first site of that id in the document. -/
theorem site_of_found {d : Document} (hplain : HasPlainControllers d) {id : String} {e : Edge}
    (h : viewController? (edgesOf d) id = some e) : e.site = controller? d id := by
  rw [viewController?_edgesOf hplain, Option.map_eq_some_iff] at h
  obtain ⟨s, hs, rfl⟩ := h
  exact hs.symm

theorem destination?_of_attribute {es : List Edge} {s : Edge} {id : String}
    (h : s.attribute? "destination" = some id) : destination? es s = viewController? es id := by
  rw [destination?, h, Option.bind_some]

section
variable {d : Document} {kinds : List String} {id : String}

/-- Every screen of a flow is the first view controller of its id in the document. -/
theorem screen_resolved (hplain : HasPlainControllers d) {f : Flow}
    (hf : flowOf? kinds (edgesOf d) = some f) {c : Screen} (hc : c ∈ f.root :: f.children) :
    c.site = controller? d c.id := by
  obtain ⟨e, he, hce⟩ := viewController?_of_mem hf hc
  rw [hce] at he ⊢
  exact site_of_found hplain he

/-- There is no flow exactly if no view controller of the document has the id that the segue to the first
screen names. -/
theorem root_unresolved_iff (hplain : HasPlainControllers d) {s : Edge}
    (hs : IsFirst LeadsToRoot (edgesOf d) s) (hid : s.attribute? "destination" = some id) :
    (flowOf? kinds (edgesOf d) = none ↔ controller? d id = none) ∧
      ∀ f, flowOf? kinds (edgesOf d) = some f → f.root.id = id := by
  rw [← rootSegue?_eq_some_iff] at hs
  have hflow : flowOf? kinds (edgesOf d) = (viewController? (edgesOf d) id).map fun e =>
      ⟨Screen.ofEdge e, linkedScreens kinds (edgesOf d)⟩ := by
    rw [flowOf?, hs, ← destination?_of_attribute hid]
    cases h : destination? (edgesOf d) s <;> simp [h]
  constructor
  · rw [hflow, viewController?_edgesOf hplain, Option.map_eq_none_iff, Option.map_eq_none_iff]
  · intro f hf
    rw [hflow, Option.map_eq_some_iff] at hf
    obtain ⟨e, he, rfl⟩ := hf
    exact (of_viewController? he).2

/-- The destination of an accepted segue is passed over exactly if no view controller of the document has
that id. -/
theorem linked_unresolved_iff (hplain : HasPlainControllers d) {f : Flow}
    (hf : flowOf? kinds (edgesOf d) = some f) {s : Edge} (hs : s ∈ segues (edgesOf d))
    (haccepted : isAccepted kinds s = true) (hid : s.attribute? "destination" = some id) :
    (∀ c ∈ f.children, c.id ≠ id) ↔ controller? d id = none := by
  have hfound := viewController?_edgesOf hplain id
  constructor
  · intro hnone
    cases hw : controller? d id with
    | none => rfl
    | some w =>
      rw [hw, Option.map_some] at hfound
      have he := (destination?_of_attribute hid).trans hfound
      obtain ⟨_, _, -, -, rfl⟩ := flowOf?_eq_some hf
      exact absurd (of_viewController? hfound).2
        (hnone _ (mem_linkedScreens.mpr ⟨s, hs, haccepted, _, he, rfl⟩))
  · rintro hnone c hc rfl
    obtain ⟨e, he, -⟩ := viewController?_of_mem hf (List.mem_cons_of_mem _ hc)
    rw [hfound, hnone] at he
    cases he

/-! ## What a tab finds -/

theorem site_ofSegue (d : Document) (segue : Site) :
    (TabEntry.ofSegue d segue).site = controller? d (TabEntry.ofSegue d segue).destination :=
  List.head?_filter

theorem site_of_mem_tabEntriesOf {tab : TabEntry} (h : tab ∈ tabEntriesOf d) :
    tab.site = controller? d tab.destination := by
  simp only [tabEntriesOf, List.mem_flatMap, List.mem_map] at h
  obtain ⟨_, -, segue, -, rfl⟩ := h
  exact site_ofSegue d segue

end

/-! ## Both alike -/

/-- **Flows and tabs find the same screens.** In a document whose view controllers are in no namespace and
have ids of their own, the screen of a destination is the first view controller of that id, for a tab as
for the first screen of a flow and a linked one. If there is none, a tab has no screen, there is no flow
when its first screen has that destination, and a linked screen is left out; and only then. -/
theorem resolved_alike (d : Document) (hplain : HasPlainControllers d) (kinds : List String)
    (id : String) :
    (∀ tab ∈ tabEntriesOf d, tab.destination = id → tab.site = controller? d id) ∧
    (∀ f, flowOf? kinds (edgesOf d) = some f →
      ∀ c ∈ f.root :: f.children, c.id = id → c.site = controller? d id) ∧
    (∀ s, IsFirst LeadsToRoot (edgesOf d) s → s.attribute? "destination" = some id →
      (flowOf? kinds (edgesOf d) = none ↔ controller? d id = none) ∧
        ∀ f, flowOf? kinds (edgesOf d) = some f → f.root.id = id) ∧
    ∀ f, flowOf? kinds (edgesOf d) = some f →
      ∀ s ∈ segues (edgesOf d), isAccepted kinds s = true → s.attribute? "destination" = some id →
        ((∀ c ∈ f.children, c.id ≠ id) ↔ controller? d id = none) := by
  refine ⟨?_, ?_, fun s hs hid => root_unresolved_iff hplain hs hid,
    fun f hf s hs haccepted hid => linked_unresolved_iff hplain hf hs haccepted hid⟩
  · rintro tab htab rfl
    exact site_of_mem_tabEntriesOf htab
  · rintro f hf c hc rfl
    exact screen_resolved hplain hf hc

/-- A view controller with another of its id inside, one with an empty id, and segues to both and to one
that is not there, from a tab bar and in a flow. -/
def nestedControllers : Document :=
  ⟨plainTag "document" [],
    [plain "navigationController" [("id", "n")]
      [plain "segue" [("id", "r"), ("destination", "a"), ("relationship", "rootViewController")] []],
    plain "viewController" [("id", "a")]
      [plain "viewController" [("id", "a")]
        [plain "segue" [("id", "s"), ("destination", ""), ("kind", "show")] [],
        plain "segue" [("id", "t"), ("destination", "z"), ("kind", "show")] []]],
    plain "viewController" [("id", "")] [],
    plain "tabBarController" [("id", "b")]
      [plain "segue" [("id", "1"), ("destination", "a"), ("relationship", "viewControllers")] [],
      plain "segue" [("id", "2"), ("relationship", "viewControllers")] [],
      plain "segue" [("id", "3"), ("destination", "z"), ("relationship", "viewControllers")] []]]⟩

/-- The first screen and the first tab are the outer view controller. -/
theorem resolved_alike_nestedControllers : HasPlainControllers nestedControllers ∧
    ∃ f tabs, flowOf? ["show"] (edgesOf nestedControllers) = some f ∧
      tabEntriesOf nestedControllers = tabs ∧ tabs.map (·.destination) = ["a", "", "z"] ∧
      f.root.site = controller? nestedControllers "a" ∧ f.children.map (·.id) = [""] ∧
      (∀ tab ∈ tabs, tab.destination = "a" → tab.site = f.root.site) ∧
      (controller? nestedControllers "a").map Site.path = some [1] := by
  have hplain : HasPlainControllers nestedControllers := by decide
  obtain ⟨htabs, hscreens, hroot, -⟩ := resolved_alike nestedControllers hplain ["show"] "a"
  have hid := (hroot _ (rootSegue?_eq_some_iff.mp rfl) rfl).2 _ rfl
  have hfirst := hscreens _ rfl _ List.mem_cons_self hid
  refine ⟨hplain, _, _, rfl, rfl, rfl, hfirst, rfl, fun tab htab h => ?_, rfl⟩
  rw [htabs tab htab h, hfirst]

end Storyboard.Navigation
