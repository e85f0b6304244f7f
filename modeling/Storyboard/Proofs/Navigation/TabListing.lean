import Storyboard.Proofs.Markup.Below
import Storyboard.Proofs.Navigation.Resolution
/-!
# The tabs of a document

A tab is made from a tab bar and a segue below it that is related as `viewControllers`. Tab bars may stand
in each other, so a segue makes as many tabs as there are bars around it. The tabs are listed bar by bar,
those of a bar by segue, both in document order; a segue whose destination is not found makes its tabs
all the same.

* `barsAround`, `tabOrigins`: the bars around an element, and the pairs that tabs are made from.
* `mem_tabOrigins`, `count_tabOrigins`: which pairs there are, and how many for one segue.
* `tabOrigins_ordered`: the order of the pairs.
* `tabs_listed`: the tabs of a document, one for each pair.
-/
namespace Storyboard.Navigation

open Storyboard.Markup

/-- The element is a segue that leads to a tab. -/
def IsTabSegue (s : Site) : Prop :=
  s.name = "segue" ∧ s.element.ownAttribute? "relationship" = some "viewControllers"

/-- The tab bars that an element stands in. -/
def barsAround (d : Document) (s : Site) : List Site :=
  (d.ancestors s).filter (·.name == "tabBarController")

/-- The tab bars of a document, each beside every segue in it that leads to a tab. -/
def tabOrigins (d : Document) : List (Site × Site) :=
  (d.sitesNamed "tabBarController").flatMap fun bar => (tabSegues bar).map (bar, ·)

/-- The tab that a segue makes. Its screen is the first view controller of the id that the segue names; if
there is none, the tab is there without a screen and without a class. -/
structure IsTabOf (d : Document) (segue : Site) (tab : TabEntry) : Prop where
  destination : tab.destination = (segue.attribute? "destination").getD ""
  segue : tab.segue = (segue.attribute? "id").getD ""
  screen : tab.site = controller? d tab.destination
  className : tab.className = (tab.site.bind (·.attribute? "customClass")).getD ""
  unresolved : (∀ s ∈ d.sites, s.name = "viewController" →
    s.element.ownAttribute? "id" ≠ some tab.destination) → tab.site = none ∧ tab.className = ""

/-- Are these the pairs of a tab bar and a segue that the tabs of a document have to be made from? -/
structure IsTabListing (d : Document) (origins : List (Site × Site)) : Prop where
  /-- Each pair is a segue of the document that leads to a tab, beside a bar that it stands in. -/
  members : ∀ o ∈ origins, o.2 ∈ d.sites ∧ IsTabSegue o.2 ∧ o.1 ∈ barsAround d o.2
  /-- A segue comes up once for each bar around it if it leads to a tab, and else not at all. -/
  counted : ∀ s ∈ d.sites, s.name = "segue" → origins.countP (·.2.path == s.path) =
    if s.element.ownAttribute? "relationship" = some "viewControllers" then (barsAround d s).length
    else 0
  /-- The pairs are in the order of the bars, those of one bar in the order of the segues. -/
  ordered : origins.Pairwise fun o o' => o.1.path < o'.1.path ∨ o.1 = o'.1 ∧ o.2.path < o'.2.path

section
variable {d : Document}

/-! ## Pairs of a bar and a segue -/

theorem mem_tabSegues {bar s : Site} : s ∈ tabSegues bar ↔ s ∈ bar.descendants ∧ IsTabSegue s := by
  rw [tabSegues, List.mem_filter, Bool.and_eq_true, beq_iff_eq, beq_iff_eq, IsTabSegue]

theorem mem_barsAround {bar s : Site} (hs : s ∈ d.sites) :
    bar ∈ barsAround d s ↔ bar ∈ d.sitesNamed "tabBarController" ∧ s ∈ bar.descendants := by
  rw [barsAround, List.mem_filter, Document.mem_ancestors hs, Document.sitesNamed, List.mem_filter]
  exact and_right_comm

theorem nodup_barsAround (d : Document) (s : Site) : (barsAround d s).Nodup := by
  have hordered : (barsAround d s).Pairwise fun t u => t.path < u.path :=
    (d.sites_ordered.filter _).filter _
  exact (nodup_path_of_ordered hordered).of_map

theorem mem_tabOrigins {o : Site × Site} :
    o ∈ tabOrigins d ↔ o.2 ∈ d.sites ∧ IsTabSegue o.2 ∧ o.1 ∈ barsAround d o.2 := by
  obtain ⟨bar, s⟩ := o
  simp only [tabOrigins, List.mem_flatMap, List.mem_map, Prod.mk.injEq, mem_tabSegues]
  constructor
  · rintro ⟨_, hbar, _, ⟨hbelow, hsegue⟩, rfl, rfl⟩
    have hs := Document.mem_sites_of_descendants (List.mem_of_mem_filter hbar) hbelow
    exact ⟨hs, hsegue, (mem_barsAround hs).mpr ⟨hbar, hbelow⟩⟩
  · rintro ⟨hs, hsegue, hbar⟩
    obtain ⟨hbar, hbelow⟩ := (mem_barsAround hs).mp hbar
    exact ⟨bar, hbar, s, ⟨hbelow, hsegue⟩, rfl, rfl⟩

theorem tabOrigins_ordered (d : Document) : (tabOrigins d).Pairwise fun o o' =>
    o.1.path < o'.1.path ∨ o.1 = o'.1 ∧ o.2.path < o'.2.path := by
  rw [tabOrigins, List.pairwise_flatMap]
  constructor
  · intro bar _
    rw [List.pairwise_map]
    exact (bar.descendants_ordered.filter _).imp fun h => .inr ⟨rfl, h⟩
  · refine (d.sites_ordered.filter _).imp fun {bar bar'} hlt o ho o' ho' => ?_
    obtain ⟨_, -, rfl⟩ := List.mem_map.mp ho
    obtain ⟨_, -, rfl⟩ := List.mem_map.mp ho'
    exact .inl hlt

theorem nodup_tabOrigins (d : Document) : (tabOrigins d).Nodup :=
  (tabOrigins_ordered d).imp fun {o o'} hlt he => by
    subst he
    rcases hlt with hbar | ⟨-, hsegue⟩
    · exact List.lt_irrefl o.1.path hbar
    · exact List.lt_irrefl o.2.path hsegue

/-- The pairs of a segue that leads to a tab are the bars around it, each beside the segue. -/
theorem perm_tabOrigins {s : Site} (hs : s ∈ d.sites) (hsegue : IsTabSegue s) :
    ((tabOrigins d).filter (·.2.path == s.path)).Perm ((barsAround d s).map (·, s)) := by
  have hpairs : ((barsAround d s).map (·, s)).Nodup :=
    (nodup_barsAround d s).map fun _ _ he => congrArg Prod.fst he
  rw [List.perm_ext_iff_of_nodup ((nodup_tabOrigins d).filter _) hpairs]
  rintro ⟨bar, t⟩
  simp only [List.mem_filter, mem_tabOrigins, beq_iff_eq, List.mem_map, Prod.mk.injEq]
  constructor
  · rintro ⟨⟨ht, -, hbar⟩, hpath⟩
    obtain rfl := Document.eq_of_path_eq ht hs hpath
    exact ⟨bar, hbar, rfl, rfl⟩
  · rintro ⟨_, hbar, rfl, rfl⟩
    exact ⟨⟨hs, hsegue, hbar⟩, rfl⟩

theorem count_tabOrigins {s : Site} (hs : s ∈ d.sites) (hname : s.name = "segue") :
    (tabOrigins d).countP (·.2.path == s.path) =
      if s.element.ownAttribute? "relationship" = some "viewControllers" then (barsAround d s).length
      else 0 := by
  split
  · rename_i hrelated
    rw [List.countP_eq_length_filter, (perm_tabOrigins hs ⟨hname, hrelated⟩).length_eq, List.length_map]
  · rename_i hunrelated
    refine List.countP_eq_zero.mpr fun o ho hpath => hunrelated ?_
    obtain ⟨hmem, hsegue, -⟩ := mem_tabOrigins.mp ho
    exact Document.eq_of_path_eq hmem hs (beq_iff_eq.mp hpath) ▸ hsegue.2

theorem isTabListing_tabOrigins (d : Document) : IsTabListing d (tabOrigins d) where
  members _ ho := mem_tabOrigins.mp ho
  counted _ hs hname := count_tabOrigins hs hname
  ordered := tabOrigins_ordered d

/-! ## Tabs -/

theorem tabEntriesOf_eq (d : Document) :
    tabEntriesOf d = (tabOrigins d).map fun o => TabEntry.ofSegue d o.2 := by
  simp [tabEntriesOf, tabOrigins, List.map_flatMap, Function.comp_def]

theorem isTabOf_ofSegue (d : Document) (segue : Site) : IsTabOf d segue (.ofSegue d segue) where
  destination := rfl
  segue := rfl
  screen := site_ofSegue d segue
  className := rfl
  unresolved hnone := by
    have hsite : (TabEntry.ofSegue d segue).site = none := by
      rw [site_ofSegue, controller?, List.find?_eq_none]
      intro s hs
      rw [Bool.and_eq_true, beq_iff_eq, beq_iff_eq, not_and]
      exact hnone s hs
    have hclass : (TabEntry.ofSegue d segue).className =
        ((TabEntry.ofSegue d segue).site.bind (·.attribute? "customClass")).getD "" := rfl
    exact ⟨hsite, by rw [hclass, hsite, Option.bind_none, Option.getD_none]⟩

end

/-- **The tabs of a document.** They are made from pairs of a tab bar and a segue, one from each, in their
order. A segue of the document is in as many of these pairs as there are tab bars around it if it is
related as `viewControllers`, and in none if it is not. -/
theorem tabs_listed (d : Document) : ∃ origins tabs, IsTabListing d origins ∧
    (tabEntries d).result = .ok tabs ∧
    List.Forall₂ (fun o tab => IsTabOf d o.2 tab) origins tabs := by
  refine ⟨tabOrigins d, tabEntriesOf d, isTabListing_tabOrigins d, rfl, ?_⟩
  rw [tabEntriesOf_eq, List.forall₂_map_right_iff, List.forall₂_same]
  exact fun o _ => isTabOf_ofSegue d o.2

/-- A tab bar in a tab bar, with segues in both, one of which leads nowhere and one of which is none to a
tab. -/
def nestedBars : Document :=
  ⟨plainTag "document" [],
    [plain "tabBarController" [("id", "outer")]
      [plain "segue" [("id", "1"), ("destination", "z"), ("relationship", "viewControllers")] [],
      plain "tabBarController" [("id", "inner")]
        [plain "segue" [("id", "2"), ("destination", "a"), ("relationship", "viewControllers")] [],
        plain "segue" [("id", "3"), ("destination", "a"), ("kind", "show")] []]],
    plain "viewController" [("id", "a"), ("customClass", "A")] []]⟩

/-- The segue in the inner bar makes two tabs, the one that leads nowhere stays in its place. -/
example : (tabEntriesOf nestedBars).map (fun tab => (tab.segue, tab.className)) =
    [("1", ""), ("2", "A"), ("2", "A")] := by decide

end Storyboard.Navigation
