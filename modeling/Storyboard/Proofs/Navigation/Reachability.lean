import Mathlib.Logic.Relation
import Mathlib.Tactic.Push
import Storyboard.Navigation.Flow
import Storyboard.Proofs.Markup.Plain
/-!
# The screens of a flow

A segue leads from each view controller that it stands in to the one that its destination names. The
screens that can be reached from the first one are those at the end of a chain of segues of accepted
kinds. A flow is built without a look at where a segue stands: it holds every screen that an accepted
segue of the document leads to.

* `LeadsTo`, `Follows`, `Reaches`: a segue's destination, one step from screen to screen, and a chain.
* `mem_children_iff_leadsTo`: a flow holds the destinations of all accepted segues.
* `children_reached_or_stray`: a flow holds what can be reached and the destinations of stray segues,
  which stand in no screen that can be reached.
-/
namespace Storyboard.Navigation

open Storyboard.Markup

/-- The view controllers of a document. -/
def controllers (d : Document) : List Site := EdgeKind.viewController.sites d

section
variable (kinds : List String) (d : Document)

/-- The segue at `s` is of an accepted kind, and its destination is the view controller `w`. -/
def LeadsTo (s w : Site) : Prop :=
  s ∈ EdgeKind.segue.sites d ∧ isAccepted kinds (.ofSite .segue s) = true ∧
    (destination? (edgesOf d) (.ofSite .segue s)).bind Edge.site = some w

/-- A segue in the view controller `v` leads to `w`. -/
def Follows (v w : Site) : Prop := v ∈ controllers d ∧ ∃ s ∈ v.descendants, LeadsTo kinds d s w

/-- One or more segues lead from `v` to `w`. -/
def Reaches (v w : Site) : Prop := Relation.TransGen (Follows kinds d) v w

/-- The segue at `s` stands neither in the first screen nor in one that can be reached from there. -/
def IsStray (root s : Site) : Prop := ∀ v, v = root ∨ Reaches kinds d root v → s ∉ v.descendants

end

variable {kinds : List String} {d : Document}

/-- The edges of a kind are made from the sites of that kind. -/
theorem filter_edgesOf (d : Document) (kind : EdgeKind) :
    (edgesOf d).filter (·.kind = kind) = (kind.sites d).map (Edge.ofSite kind) := by
  -- the edges are listed kind by kind, so the filter keeps one whole group and drops the others
  have hgroup : ∀ other : EdgeKind, ((other.sites d).map (Edge.ofSite other)).filter (·.kind = kind) =
      if other = kind then (kind.sites d).map (Edge.ofSite kind) else [] := by
    intro other
    split
    · rename_i h
      subst h
      refine List.filter_eq_self.mpr fun e he => ?_
      obtain ⟨s, -, rfl⟩ := List.mem_map.mp he
      exact decide_eq_true rfl
    · rename_i h
      refine List.filter_eq_nil_iff.mpr fun e he hk => ?_
      obtain ⟨s, -, rfl⟩ := List.mem_map.mp he
      exact h (of_decide_eq_true hk)
  rw [edgesOf, List.filter_flatMap]
  simp only [hgroup]
  cases kind <;> simp

theorem segues_edgesOf (d : Document) :
    segues (edgesOf d) = (EdgeKind.segue.sites d).map (Edge.ofSite .segue) := filter_edgesOf d .segue

theorem of_viewController? {es : List Edge} {id : String} {e : Edge}
    (h : viewController? es id = some e) : e.kind = .viewController ∧ e.id = id := by
  have hfound := List.find?_some h
  rwa [Bool.and_eq_true, decide_eq_true_eq, decide_eq_true_eq] at hfound

/-- A view controller that is found by its id is one of the document. -/
theorem site_of_viewController? {id : String} {e : Edge} (h : viewController? (edgesOf d) id = some e) :
    ∃ w ∈ controllers d, e.site = some w := by
  have hmem := List.mem_of_find?_eq_some h
  simp only [edgesOf, List.mem_flatMap, List.mem_map] at hmem
  obtain ⟨kind, -, w, hw, rfl⟩ := hmem
  have hk : kind = .viewController := (of_viewController? h).1
  subst hk
  exact ⟨w, hw, rfl⟩

theorem site_of_destination? {segue e : Edge} (h : destination? (edgesOf d) segue = some e) :
    ∃ w ∈ controllers d, e.site = some w := by
  obtain ⟨id, -, h⟩ := Option.bind_eq_some_iff.mp h
  exact site_of_viewController? h

theorem LeadsTo.mem_controllers {s w : Site} (h : LeadsTo kinds d s w) : w ∈ controllers d := by
  obtain ⟨e, he, hsite⟩ := Option.bind_eq_some_iff.mp h.2.2
  obtain ⟨w', hw', hsite'⟩ := site_of_destination? he
  rw [hsite, Option.some.injEq] at hsite'
  exact hsite' ▸ hw'

/-- The last step of a chain. -/
theorem Reaches.leadsTo {v w : Site} (h : Reaches kinds d v w) : ∃ s, LeadsTo kinds d s w := by
  obtain ⟨_, -, _, s, -, hs⟩ := Relation.TransGen.tail'_iff.mp h
  exact ⟨s, hs⟩

/-- What a segue in a screen that can be reached leads to can be reached. -/
theorem LeadsTo.reaches {root v s w : Site} (h : LeadsTo kinds d s w) (hroot : root ∈ controllers d)
    (hv : v = root ∨ Reaches kinds d root v) (hs : s ∈ v.descendants) : Reaches kinds d root w := by
  rcases hv with rfl | hv
  · exact .single ⟨hroot, s, hs, h⟩
  · obtain ⟨_, ht⟩ := hv.leadsTo
    exact hv.tail ⟨ht.mem_controllers, s, hs, h⟩

theorem mem_linkedScreens {es : List Edge} {c : Screen} : c ∈ linkedScreens kinds es ↔
    ∃ s ∈ segues es, isAccepted kinds s = true ∧
      ∃ e, destination? es s = some e ∧ Screen.ofEdge e = c := by
  simp only [linkedScreens, List.mem_map, List.mem_filterMap, List.mem_filter]
  constructor
  · rintro ⟨e, ⟨s, ⟨hs, haccepted⟩, he⟩, rfl⟩
    exact ⟨s, hs, haccepted, e, he, rfl⟩
  · rintro ⟨s, hs, haccepted, e, he, rfl⟩
    exact ⟨e, ⟨s, ⟨hs, haccepted⟩, he⟩, rfl⟩

/-- A flow holds the destinations of all accepted segues, wherever these stand. -/
theorem mem_children_iff_leadsTo {w : Site} :
    (∃ c ∈ linkedScreens kinds (edgesOf d), c.site = some w) ↔ ∃ s, LeadsTo kinds d s w := by
  simp only [mem_linkedScreens, segues_edgesOf, List.mem_map, LeadsTo, Option.bind_eq_some_iff]
  constructor
  · rintro ⟨_, ⟨_, ⟨s, hs, rfl⟩, haccepted, e, he, rfl⟩, hw⟩
    exact ⟨s, hs, haccepted, e, he, hw⟩
  · rintro ⟨s, hs, haccepted, e, he, hw⟩
    exact ⟨_, ⟨_, ⟨s, hs, rfl⟩, haccepted, e, he, rfl⟩, hw⟩

theorem flowOf?_eq_some {es : List Edge} {f : Flow} (h : flowOf? kinds es = some f) :
    ∃ segue root, rootSegue? es = some segue ∧ destination? es segue = some root ∧
      f = ⟨.ofEdge root, linkedScreens kinds es⟩ := by
  simp only [flowOf?, Option.bind_eq_bind, Option.bind_eq_some_iff, Option.pure_def,
    Option.some.injEq] at h
  obtain ⟨segue, hsegue, root, hroot, rfl⟩ := h
  exact ⟨segue, root, hsegue, hroot, rfl⟩

/-- The screens of a flow are the view controllers that are found by their ids. -/
theorem viewController?_of_mem {es : List Edge} {f : Flow} (hf : flowOf? kinds es = some f) {s : Screen}
    (hs : s ∈ f.root :: f.children) : ∃ e, viewController? es s.id = some e ∧ s = .ofEdge e := by
  have hdestination : ∀ {segue e : Edge}, destination? es segue = some e →
      viewController? es e.id = some e := by
    intro segue e he
    obtain ⟨id, -, he⟩ := Option.bind_eq_some_iff.mp he
    rwa [(of_viewController? he).2]
  obtain ⟨segue, root, -, hroot, rfl⟩ := flowOf?_eq_some hf
  rcases List.mem_cons.mp hs with rfl | hs
  · exact ⟨root, hdestination hroot, rfl⟩
  · obtain ⟨_, -, -, e, he, rfl⟩ := mem_linkedScreens.mp hs
    exact ⟨e, hdestination he, rfl⟩

/-- **A flow holds what can be reached and where stray segues lead.** Its screens are view controllers
of the document. Besides the screens that a chain of accepted segues leads to from the first one, it
holds exactly those that an accepted segue leads to from outside of all these screens; so all its
screens can be reached if no accepted segue is stray. -/
theorem children_reached_or_stray (kinds : List String) (d : Document) (f : Flow)
    (h : flowOf? kinds (edgesOf d) = some f) :
    ∃ root ∈ controllers d, f.root.site = some root ∧
      (∀ c ∈ f.children, ∃ w ∈ controllers d, c.site = some w) ∧
      (∀ w, (∃ c ∈ f.children, c.site = some w) ↔
        Reaches kinds d root w ∨ ∃ s, LeadsTo kinds d s w ∧ IsStray kinds d root s) ∧
      ((∀ s w, LeadsTo kinds d s w → ¬IsStray kinds d root s) →
        ∀ c ∈ f.children, ∃ w, c.site = some w ∧ Reaches kinds d root w) := by
  obtain ⟨_, e, -, he, rfl⟩ := flowOf?_eq_some h
  obtain ⟨root, hroot, hsite⟩ := site_of_destination? he
  have hsites : ∀ c ∈ linkedScreens kinds (edgesOf d), ∃ w ∈ controllers d, c.site = some w := by
    intro c hc
    obtain ⟨_, -, -, e, he, rfl⟩ := mem_linkedScreens.mp hc
    exact site_of_destination? he
  have hiff : ∀ w, (∃ c ∈ linkedScreens kinds (edgesOf d), c.site = some w) ↔
      Reaches kinds d root w ∨ ∃ s, LeadsTo kinds d s w ∧ IsStray kinds d root s := by
    intro w
    rw [mem_children_iff_leadsTo]
    constructor
    · rintro ⟨s, hs⟩
      by_cases hstray : IsStray kinds d root s
      · exact .inr ⟨s, hs, hstray⟩
      · unfold IsStray at hstray
        push Not at hstray
        obtain ⟨v, hv, hsv⟩ := hstray
        exact .inl (hs.reaches hroot hv hsv)
    · rintro (hw | ⟨s, hs, -⟩)
      · exact hw.leadsTo
      · exact ⟨s, hs⟩
  refine ⟨root, hroot, hsite, hsites, hiff, fun hnone c hc => ?_⟩
  obtain ⟨w, -, hw⟩ := hsites c hc
  rcases (hiff w).mp ⟨c, hc, hw⟩ with hreach | ⟨s, hs, hstray⟩
  · exact ⟨w, hw, hreach⟩
  · exact absurd hstray (hnone s w hs)

/-- A first screen that leads to a second one, and a segue between two other screens. -/
def strandedPair : Document :=
  ⟨plainTag "document" [], [plain "scenes" [] [plain "scene" [] [plain "objects" []
    [plain "navigationController" [("id", "n")]
      [plain "segue" [("id", "r"), ("destination", "a"), ("relationship", "rootViewController")] []],
      plain "viewController" [("id", "a")]
        [plain "segue" [("id", "s"), ("destination", "b"), ("kind", "show")] []],
      plain "viewController" [("id", "b")] [],
      plain "viewController" [("id", "c")]
        [plain "segue" [("id", "t"), ("destination", "e"), ("kind", "show")] []],
      plain "viewController" [("id", "e")] []]]]]⟩

/-- The second screen is held since it can be reached, the last one since a stray segue leads to it. -/
theorem children_reached_or_stray_strandedPair : ∃ f root,
    flowOf? ["show"] (edgesOf strandedPair) = some f ∧ f.root.site = some root ∧
      f.children.map Screen.id = ["b", "e"] ∧
      ∀ c ∈ f.children, ∃ w, c.site = some w ∧ (Reaches ["show"] strandedPair root w ∨
        ∃ s, LeadsTo ["show"] strandedPair s w ∧ IsStray ["show"] strandedPair root s) := by
  obtain ⟨root, -, hroot, hsites, hiff, -⟩ :=
    children_reached_or_stray ["show"] strandedPair _ rfl
  refine ⟨_, root, rfl, hroot, rfl, fun c hc => ?_⟩
  obtain ⟨w, -, hw⟩ := hsites c hc
  exact ⟨w, hw, (hiff w).mp ⟨c, hc, hw⟩⟩

/-- The last screen is in the flow, and no chain of segues leads there from the first one. -/
theorem child_not_reached : ∃ f root w, flowOf? ["show"] (edgesOf strandedPair) = some f ∧
    f.root.site = some root ∧ (∃ c ∈ f.children, c.site = some w) ∧
      ¬Reaches ["show"] strandedPair root w := by
  let sites := controllers strandedPair
  have hstep : ∀ v w, v = sites[0] ∨ v = sites[1] → Follows ["show"] strandedPair v w → w = sites[1] := by
    rintro v w (rfl | rfl) ⟨-, s, hs, -, -, hw⟩
    · have hs : s ∈ [(EdgeKind.segue.sites strandedPair)[1]] := hs
      rw [List.mem_singleton] at hs
      subst hs
      exact (Option.some.inj hw).symm
    · exact absurd hs List.not_mem_nil
  have hreach : ∀ w, Reaches ["show"] strandedPair sites[0] w → w = sites[1] := by
    intro w h
    induction h with
    | single h => exact hstep _ _ (.inl rfl) h
    | tail _ h ih => exact hstep _ _ (.inr ih) h
  refine ⟨_, sites[0], sites[3], rfl, rfl, ⟨_, List.mem_cons_of_mem _ List.mem_cons_self, rfl⟩, fun h => ?_⟩
  have hpath : [0, 0, 0, 4] = [0, 0, 0, 2] := congrArg Site.path (hreach _ h)
  exact absurd hpath (by decide)

end Storyboard.Navigation
