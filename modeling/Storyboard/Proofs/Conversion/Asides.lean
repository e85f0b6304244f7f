import Storyboard.Proofs.Conversion.Totality
import Storyboard.Proofs.Layout.Asides
/-!
# Asides in a document

Without its comments and instructions a document has the same screens, the same navigation and the same
tabs, with the elements as they are without asides. So it is converted in the same way and to the same
files, as long as no aside cuts the text of a text view short.

* `edgesOf_withoutAsides`, `flowOf?_withoutAsides`, `tabEntriesOf_withoutAsides`: the same navigation.
* `flatFiles_withoutAsides`, `flowFiles_withoutAsides`, `tabFiles_withoutAsides`: the same files, mode by
  mode.
* `convert_without_asides`: the same files for a document.
* `cut_text_converted`: a comment that cuts a text short.
-/
namespace Storyboard.Navigation

open Storyboard.Markup

/-! ## Navigation -/

def Edge.withoutAsides (e : Edge) : Edge := { e with site := e.site.map Site.withoutAsides }

def Screen.withoutAsides (s : Screen) : Screen := { s with site := s.site.map Site.withoutAsides }

def Flow.withoutAsides (f : Flow) : Flow := ⟨f.root.withoutAsides, f.children.map Screen.withoutAsides⟩

def TabEntry.withoutAsides (entry : TabEntry) : TabEntry :=
  { entry with site := entry.site.map Site.withoutAsides }

section
variable (d : Document)

theorem EdgeKind.sites_withoutAsides (kind : EdgeKind) :
    kind.sites d.withoutAsides = (kind.sites d).map Site.withoutAsides := by
  cases kind with
  | viewController =>
    simp only [EdgeKind.sites, Document.sites_withoutAsides, List.filter_map]
    rfl
  | navigationController | relationship | segue => exact d.sitesNamed_withoutAsides _

theorem edgesOf_withoutAsides : edgesOf d.withoutAsides = (edgesOf d).map Edge.withoutAsides := by
  have hedge : ∀ (kind : EdgeKind) (s : Site),
      Edge.ofSite kind s.withoutAsides = (Edge.ofSite kind s).withoutAsides := by
    intro kind s
    cases kind <;> rfl
  have hkind : ∀ kind : EdgeKind, (kind.sites d.withoutAsides).map (Edge.ofSite kind) =
      ((kind.sites d).map (Edge.ofSite kind)).map Edge.withoutAsides := by
    intro kind
    rw [kind.sites_withoutAsides, List.map_map, List.map_map]
    exact List.map_congr_left fun s _ => hedge kind s
  simp only [edgesOf, List.map_flatMap, hkind]

theorem tabEntriesOf_withoutAsides :
    tabEntriesOf d.withoutAsides = (tabEntriesOf d).map TabEntry.withoutAsides := by
  have hsegues : ∀ bar : Site, tabSegues bar.withoutAsides = (tabSegues bar).map Site.withoutAsides := by
    intro bar
    simp only [tabSegues, Site.descendants_withoutAsides, List.filter_map]
    rfl
  have hentry : ∀ segue : Site, TabEntry.ofSegue d.withoutAsides segue.withoutAsides =
      (TabEntry.ofSegue d segue).withoutAsides := by
    intro segue
    have hfound : ∀ id, (viewControllersOf d.withoutAsides id).head? =
        (viewControllersOf d id).head?.map Site.withoutAsides := by
      intro id
      rw [← List.head?_map, viewControllersOf, Document.sites_withoutAsides, List.filter_map]
      rfl
    simp only [TabEntry.ofSegue, hfound, Option.bind_map]
    rfl
  simp only [tabEntriesOf, Document.sitesNamed_withoutAsides, List.flatMap_map, List.map_flatMap,
    hsegues, List.map_map]
  refine congrArg (List.flatMap · _) (funext fun bar => ?_)
  exact List.map_congr_left fun segue _ => hentry segue

end

section
variable (es : List Edge)

theorem viewController?_withoutAsides (id : String) :
    viewController? (es.map Edge.withoutAsides) id = (viewController? es id).map Edge.withoutAsides := by
  rw [viewController?, List.find?_map]
  rfl

theorem destination?_withoutAsides (segue : Edge) :
    destination? (es.map Edge.withoutAsides) segue.withoutAsides =
      (destination? es segue).map Edge.withoutAsides := by
  have hattribute : segue.withoutAsides.attribute? "destination" = segue.attribute? "destination" := rfl
  rw [destination?, destination?, hattribute]
  cases segue.attribute? "destination" with
  | none => rfl
  | some id => exact viewController?_withoutAsides es id

theorem segues_withoutAsides :
    segues (es.map Edge.withoutAsides) = (segues es).map Edge.withoutAsides := by
  rw [segues, List.filter_map]
  rfl

theorem linkedScreens_withoutAsides (kinds : List String) :
    linkedScreens kinds (es.map Edge.withoutAsides) =
      (linkedScreens kinds es).map Screen.withoutAsides := by
  have hdestinations : ∀ segues : List Edge,
      (segues.map Edge.withoutAsides).filterMap (destination? (es.map Edge.withoutAsides)) =
        (segues.filterMap (destination? es)).map Edge.withoutAsides := by
    intro segues
    rw [List.filterMap_map, List.map_filterMap]
    exact List.filterMap_congr fun segue _ => destination?_withoutAsides es segue
  rw [linkedScreens, segues_withoutAsides, List.filter_map, hdestinations, linkedScreens]
  simp only [List.map_map]
  rfl

/-- The flow is the same, with its screens without asides. -/
theorem flowOf?_withoutAsides (kinds : List String) :
    flowOf? kinds (es.map Edge.withoutAsides) = (flowOf? kinds es).map Flow.withoutAsides := by
  have hroot : rootSegue? (es.map Edge.withoutAsides) = (rootSegue? es).map Edge.withoutAsides := by
    rw [rootSegue?, segues_withoutAsides, List.find?_map]
    rfl
  rw [flowOf?, flowOf?, hroot, linkedScreens_withoutAsides]
  cases rootSegue? es with
  | none => rfl
  | some segue =>
    simp only [Option.map_some, Option.bind_eq_bind, Option.bind_some, destination?_withoutAsides]
    cases destination? es segue <;> rfl

end

end Storyboard.Navigation

namespace Storyboard

open Storyboard.Layout
open Storyboard.Markup
open Storyboard.Navigation
open Storyboard.Number (Binary64)
open Storyboard.Swift

/-! ## Files -/

/-- Does no aside in the document cut the text of a text view short? -/
def HasWholeTexts (d : Document) : Prop := ∀ s ∈ d.sites, IsWhole s.element

instance (d : Document) : Decidable (HasWholeTexts d) :=
  inferInstanceAs (Decidable (∀ s ∈ d.sites, IsWhole s.element))

theorem viewControllers_withoutAsides (s : Site) :
    viewControllers s.withoutAsides = (viewControllers s).map Site.withoutAsides :=
  s.follow_withoutAsides _

theorem modeOf_withoutAsides (s : Site) : modeOf s.withoutAsides = modeOf s := by
  simp only [modeOf, tabBars, hasNavigation, Site.follow_withoutAsides, List.isEmpty_map]
  rfl

theorem flatScreens_withoutAsides (s : Site) :
    flatScreens s.withoutAsides = (flatScreens s).map Site.withoutAsides := by
  simp only [flatScreens, viewControllers_withoutAsides, Site.follow_withoutAsides, List.isEmpty_map]
  split <;> rfl

theorem distinctScreens_withoutAsides (seen : List String) (ss : List Screen) :
    distinctScreens seen (ss.map Screen.withoutAsides) =
      ((distinctScreens seen ss).1.map Screen.withoutAsides, (distinctScreens seen ss).2) := by
  induction ss generalizing seen with
  | nil => rfl
  | cons s rest ih =>
    have hid : s.withoutAsides.id = s.id := rfl
    rw [List.map_cons, distinctScreens, distinctScreens, hid, ih, ih]
    split <;> rfl

theorem namedScreens_withoutAsides (used : List String) (ss : List Screen) :
    namedScreens used (ss.map Screen.withoutAsides) =
      (namedScreens used ss).map (Prod.map Screen.withoutAsides id) := by
  induction ss generalizing used with
  | nil => rfl
  | cons s rest ih =>
    simp only [List.map_cons, namedScreens, ih]
    rfl

theorem tabOf_withoutAsides (settings : Settings) (i : Nat) (view : String) (entry : TabEntry) :
    tabOf settings i view entry.withoutAsides = tabOf settings i view entry := by
  have hitem : (entry.withoutAsides.site.bind fun s => s.element.firstChild? "tabBarItem") =
      (entry.site.bind fun s => s.element.firstChild? "tabBarItem").map Element.withoutAsides := by
    cases hsite : entry.site with
    | none => simp [TabEntry.withoutAsides, hsite]
    | some s =>
      simp only [TabEntry.withoutAsides, hsite, Option.map_some, Option.bind_some]
      exact s.element.firstChild?_withoutAsides "tabBarItem"
  simp only [tabOf, hitem, Option.bind_map]
  rfl

section
variable (settings : Settings) (now : Binary64) {d : Document} (h : HasWholeTexts d)
include h

/-- The components of a screen of the document, and what is reported about them. -/
theorem components_withoutAsides {screen : Option Site} (hscreen : ∀ s ∈ screen, s ∈ d.sites) :
    components settings now (screen.map Site.withoutAsides) = components settings now screen := by
  have hbelow : ∀ s ∈ screen, ∀ t ∈ s.descendants, IsWhole t.element := fun s hs t ht =>
    h t (d.mem_sites_of_descendants (hscreen s hs) ht)
  rw [components, screenComponents_withoutAsides now _ hbelow, components]

theorem flatFile_withoutAsides (name : String) {screen : Site} (hscreen : screen ∈ d.sites) :
    flatFile settings now name screen.withoutAsides = flatFile settings now name screen := by
  have hcomponents : components settings now ((some screen).map Site.withoutAsides) =
      components settings now (some screen) := components_withoutAsides settings now h (by simpa)
  rw [flatFile, ← Option.map_some, hcomponents, flatFile]

theorem numberedFiles_withoutAsides (i : Nat) {screens : List Site} (hs : ∀ s ∈ screens, s ∈ d.sites) :
    numberedFiles settings now i (screens.map Site.withoutAsides) =
      numberedFiles settings now i screens := by
  induction screens generalizing i with
  | nil => rfl
  | cons screen rest ih =>
    obtain ⟨hscreen, hrest⟩ := List.forall_mem_cons.mp hs
    rw [List.map_cons, numberedFiles, flatFile_withoutAsides settings now h _ hscreen,
      ih (i + 1) hrest, numberedFiles]

theorem flatFiles_withoutAsides :
    flatFiles settings now d.site.withoutAsides = flatFiles settings now d.site := by
  have hfollow : ∀ names, ∀ t ∈ d.site.follow names, t ∈ d.sites := fun names =>
    Site.of_mem_follow (P := (· ∈ d.sites))
      (fun s hs t ht => d.mem_sites_of_descendants hs (s.children_sublist.subset ht))
      List.mem_cons_self names
  have hscreens : ∀ t ∈ flatScreens d.site, t ∈ d.sites := by
    unfold flatScreens viewControllers
    split
    · exact hfollow _
    · exact hfollow _
  have hcells := hfollow ["objects", "tableViewCell", "tableViewCellContentView"]
  simp only [flatFiles, viewControllers_withoutAsides, flatScreens_withoutAsides, List.isEmpty_map,
    Site.follow_withoutAsides, numberedFiles_withoutAsides settings now h 1 hscreens]
  cases hcell : d.site.follow ["objects", "tableViewCell", "tableViewCellContentView"] with
  | nil => rfl
  | cons cell rest =>
    rw [hcell] at hcells
    simp only [List.map_cons, flatFile_withoutAsides settings now h _ (hcells cell List.mem_cons_self)]

theorem flowFiles_withoutAsides {f : Flow} (hroot : ∀ s ∈ f.root.site, s ∈ d.sites) :
    flowFiles settings now f.withoutAsides = flowFiles settings now f := by
  have hcomponents : components settings now f.root.withoutAsides.site =
      components settings now f.root.site := components_withoutAsides settings now h hroot
  simp only [flowFiles, hcomponents, Flow.withoutAsides, distinctScreens_withoutAsides,
    namedScreens_withoutAsides, List.map_map]
  rfl

theorem tabViews_withoutAsides (i : Nat) (used : List String) {entries : List TabEntry}
    (hentries : ∀ entry ∈ entries, ∀ s ∈ entry.site, s ∈ d.sites) :
    tabViews settings now i used (entries.map TabEntry.withoutAsides) =
      tabViews settings now i used entries := by
  induction entries generalizing i used with
  | nil => rfl
  | cons entry rest ih =>
    obtain ⟨hentry, hrest⟩ := List.forall_mem_cons.mp hentries
    have hcomponents : components settings now entry.withoutAsides.site =
        components settings now entry.site := components_withoutAsides settings now h hentry
    have hbase : tabBase i entry.withoutAsides = tabBase i entry := rfl
    rw [List.map_cons, tabViews, tabViews, hbase, hcomponents]
    simp only [ih _ _ hrest, tabOf_withoutAsides]

theorem tabFiles_withoutAsides {entries : List TabEntry}
    (hentries : ∀ entry ∈ entries, ∀ s ∈ entry.site, s ∈ d.sites) :
    tabFiles settings now (entries.map TabEntry.withoutAsides) = tabFiles settings now entries := by
  rw [tabFiles, tabViews_withoutAsides settings now h 1 [tabBarName] hentries, tabFiles]

/-- Whether or not there are files, asides that cut no text short change nothing. -/
theorem convert_result_withoutAsides :
    (convert settings now d.withoutAsides).result = (convert settings now d).result := by
  have htabs : tabFiles settings now (tabEntriesOf d.withoutAsides) =
      tabFiles settings now (tabEntriesOf d) := by
    rw [tabEntriesOf_withoutAsides]
    exact tabFiles_withoutAsides settings now h fun entry hentry => mem_sites_of_tab hentry
  rw [convert_result, convert_result, Document.site_withoutAsides, modeOf_withoutAsides, htabs,
    flatFiles_withoutAsides settings now h, edgesOf_withoutAsides, flowOf?_withoutAsides]
  cases hf : flowOf? settings.flowSegueKinds (edgesOf d) with
  | none => rfl
  | some f =>
    have hroot := mem_sites_of_flow hf List.mem_cons_self
    simp only [Option.map_some, flowFiles_withoutAsides settings now h hroot]

end

/-- **Asides are passed over.** A document is converted to the same files with and without the comments and
instructions in it, whatever it is and whatever the mode, if none of them cuts the text of a text view
short. -/
theorem convert_without_asides (settings : Settings) (now : Binary64) (d : Document)
    (hd : d.root.isUnseparated = true) (hs : settings.hasFinitePadding = true) (h : HasWholeTexts d) :
    ∃ files, (convert settings now d).result = .ok files ∧
      (convert settings now d.withoutAsides).result = .ok files := by
  obtain ⟨files, hfiles⟩ := exists_siteFiles now hd hs
  exact ⟨files, hfiles, (convert_result_withoutAsides settings now h).trans hfiles⟩

/-- A text view in a row, with a comment or an instruction in every place, but none in front of a part of
the text. -/
def remarkedRow : Document :=
  ⟨plainTag "document" [], [.comment "a", plain "scenes" [] [plain "scene" [] [plain "objects" []
    [.instruction "b" none, plain "viewController" [("id", "v")]
      [plain "stackView" [] [.comment "c", plain "subviews" [] [.comment "d",
        plain "textView" [] [.instruction "e" none, plain "text" []
          [.text "Hello", .comment "f", plain "b" [] [], .text "world"]]]]]]]]]⟩

theorem convert_without_asides_remarkedRow : remarkedRow.root.isUnseparated = true ∧
    Settings.standard.hasFinitePadding = true ∧ HasWholeTexts remarkedRow ∧
    ∃ files, (convert Settings.standard 42 remarkedRow).result = .ok files ∧
      (convert Settings.standard 42 remarkedRow.withoutAsides).result = .ok files ∧
      files.map ViewFile.name = ["GeneratedView1"] := by
  have hd : remarkedRow.root.isUnseparated = true := by decide +kernel
  have hs : Settings.standard.hasFinitePadding = true := by decide +kernel
  have h : HasWholeTexts remarkedRow := by decide +kernel
  obtain ⟨files, hfiles, hsame⟩ := convert_without_asides Settings.standard 42 remarkedRow hd hs h
  have hnames : (convert Settings.standard 42 remarkedRow).result.toOption.map (·.map ViewFile.name) =
      some ["GeneratedView1"] := by decide +kernel
  rw [hfiles] at hnames
  exact ⟨hd, hs, h, files, hfiles, hsame, Option.some.inj hnames⟩

/-- A text view whose text has a comment in it. -/
def cutText : Document :=
  ⟨plainTag "document" [], [plain "scenes" [] [plain "scene" [] [plain "objects" []
    [plain "viewController" [("id", "v")] [plain "textView" [("id", "t")]
      [plain "text" [] [.text "Hello", .comment " note ", .text " world"]]]]]]]⟩

/-- The file shows the text up to the comment; without the comment it shows all of it. -/
theorem cut_text_converted : cutText.root.isUnseparated = true ∧
    Settings.standard.hasFinitePadding = true ∧ ∃ files files',
    (convert Settings.standard 42 cutText).result = .ok files ∧
    (convert Settings.standard 42 cutText.withoutAsides).result = .ok files' ∧
    files = [screenFile "GeneratedView1" "TextEditor(text: .constant(\"Hello\"))"] ∧
    files' = [screenFile "GeneratedView1" "TextEditor(text: .constant(\"Hello world\"))"] ∧
    files ≠ files' :=
  ⟨by decide +kernel, by decide +kernel, _, _, rfl, rfl, by decide +kernel, by decide +kernel,
    by decide +kernel⟩

end Storyboard
