import Storyboard.Conversion.Modes
import Storyboard.Proofs.Layout.Extracted
import Storyboard.Proofs.Markup.Plain
import Storyboard.Proofs.Navigation.Reachability
/-!
# Every document is converted

A conversion can end for three reasons: a numeral that cannot be converted, a number without an integer
part, and a component without a view. In a document without separators and with finite paddings none of
them comes up, whatever the mode, the positions and the other numbers of the document are.

* `exists_components`, `exists_viewFile`: a screen has components, and they make a file.
* `exists_flatFiles`, `exists_flowFiles`, `exists_tabFiles`: the three ways of converting.
* `convert_result`: which of the three a document asks for.
* `convert_total`: every such document is converted.
-/
namespace Storyboard

open Storyboard.Layout
open Storyboard.Markup
open Storyboard.Navigation
open Storyboard.Number (Binary64)
open Storyboard.Swift

section
variable (settings : Settings) (now : Binary64)

theorem exists_components {screen : Option Site} (h : ∀ s ∈ screen, s.element.isUnseparated = true) :
    ∃ cs, (components settings now screen).result = .ok cs ∧ ∀ c ∈ cs, c.isWritable = true := by
  obtain ⟨cs, hcs, hwritable⟩ := exists_screenComponents now settings.placeholderText h
  refine ⟨cs, ?_, hwritable⟩
  simp only [components, Logged.bind_result_eq_ok, Logged.pure_result_eq_ok, Logged.lift_result,
    mapError_eq_ok]
  exact ⟨cs, hcs, (), rfl, rfl⟩

/-- A flow is converted as soon as the components of its first screen can be written. -/
theorem exists_flowFiles_of_body {settings : Settings} {now : Binary64} {f : Flow}
    {cs : List Component} (hcs : (components settings now f.root.site).result = .ok cs) {body : String}
    (hbody : screenBody settings cs = .ok body) :
    ∃ files, (flowFiles settings now f).result = .ok files := by
  obtain ⟨us, hus⟩ := Logged.exists_mapM_note Notice.repeatedScreen
    (distinctScreens [f.root.id] f.children).2
  refine Logged.exists_bind hcs ?_
  -- with and without the notice about an empty first screen
  cases hempty : cs.isEmpty with
  | true =>
    simp only [if_true]
    exact Logged.exists_bind rfl (Logged.exists_bind hus (Logged.exists_bind hbody ⟨_, rfl⟩))
  | false =>
    simp only [Bool.false_eq_true, if_false]
    exact Logged.exists_bind hus (Logged.exists_bind hbody ⟨_, rfl⟩)

end

section
variable {settings : Settings} (hs : settings.hasFinitePadding = true) (now : Binary64)
include hs

theorem exists_viewFile (name : String) {cs : List Component} (h : ∀ c ∈ cs, c.isWritable = true) :
    ∃ file, (viewFile settings name cs).result = .ok file := by
  obtain ⟨body, hbody⟩ := exists_screenBody hs h
  exact Logged.exists_bind hbody ⟨_, rfl⟩

/-! ## Screen by screen -/

theorem exists_flatFile (name : String) {screen : Site} (h : screen.element.isUnseparated = true) :
    ∃ files, (flatFile settings now name screen).result = .ok files := by
  have hscreen : ∀ s ∈ some screen, s.element.isUnseparated = true := by simpa using h
  obtain ⟨cs, hcs, hwritable⟩ := exists_components settings now hscreen
  obtain ⟨file, hfile⟩ := exists_viewFile hs name hwritable
  refine Logged.exists_bind hcs ?_
  split
  · exact Logged.exists_bind rfl ⟨[], rfl⟩
  · exact Logged.exists_bind hfile ⟨[file], rfl⟩

theorem exists_numberedFiles (i : Nat) {screens : List Site}
    (h : ∀ s ∈ screens, s.element.isUnseparated = true) :
    ∃ files, (numberedFiles settings now i screens).result = .ok files := by
  induction screens generalizing i with
  | nil => exact ⟨[], rfl⟩
  | cons screen rest ih =>
    obtain ⟨hscreen, hrest⟩ := List.forall_mem_cons.mp h
    obtain ⟨here, hhere⟩ := exists_flatFile hs now ("GeneratedView" ++ toString i) hscreen
    obtain ⟨behind, hbehind⟩ := ih (i + 1) hrest
    exact Logged.exists_bind hhere (Logged.exists_bind hbehind ⟨here ++ behind, rfl⟩)

theorem exists_flatFiles {s : Site} (h : s.element.isUnseparated = true) :
    ∃ files, (flatFiles settings now s).result = .ok files := by
  have hscreens : ∀ t ∈ flatScreens s, t.element.isUnseparated = true := by
    unfold flatScreens viewControllers
    split
    · exact s.isUnseparated_follow h _
    · exact s.isUnseparated_follow h _
  refine Logged.exists_bind rfl ?_
  by_cases hempty : (flatScreens s).isEmpty = true
  · rw [if_pos hempty]
    cases hcells : s.follow ["objects", "tableViewCell", "tableViewCellContentView"] with
    | nil => exact ⟨[], rfl⟩
    | cons cell _ =>
      refine exists_flatFile hs now "TableCellContentView" (s.isUnseparated_follow h
        ["objects", "tableViewCell", "tableViewCellContentView"] cell ?_)
      rw [hcells]
      exact List.mem_cons_self
  · rw [if_neg hempty]
    exact exists_numberedFiles hs now 1 hscreens

/-! ## Flows -/

theorem exists_flowFiles {f : Flow} (h : ∀ s ∈ f.root.site, s.element.isUnseparated = true) :
    ∃ files, (flowFiles settings now f).result = .ok files := by
  obtain ⟨cs, hcs, hwritable⟩ := exists_components settings now h
  obtain ⟨body, hbody⟩ := exists_screenBody hs hwritable
  exact exists_flowFiles_of_body hcs hbody

/-! ## Tabs -/

theorem exists_tabViews (i : Nat) (used : List String) {entries : List TabEntry}
    (h : ∀ entry ∈ entries, ∀ s ∈ entry.site, s.element.isUnseparated = true) :
    ∃ views, (tabViews settings now i used entries).result = .ok views := by
  induction entries generalizing i used with
  | nil => exact ⟨[], rfl⟩
  | cons entry rest ih =>
    obtain ⟨hentry, hrest⟩ := List.forall_mem_cons.mp h
    obtain ⟨cs, hcs, hwritable⟩ := exists_components settings now hentry
    obtain ⟨file, hfile⟩ := exists_viewFile hs (unusedName (tabBase i entry) used) hwritable
    obtain ⟨views, hviews⟩ := ih (i + 1) (unusedName (tabBase i entry) used :: used) hrest
    exact Logged.exists_bind hcs (Logged.exists_bind hfile (Logged.exists_bind hviews ⟨_, rfl⟩))

theorem exists_tabFiles {entries : List TabEntry}
    (h : ∀ entry ∈ entries, ∀ s ∈ entry.site, s.element.isUnseparated = true) :
    ∃ files, (tabFiles settings now entries).result = .ok files := by
  obtain ⟨views, hviews⟩ := exists_tabViews hs now 1 [tabBarName] h
  exact Logged.exists_bind hviews ⟨_, rfl⟩

end

/-! ## Every document -/

section
variable {d : Document}

/-- The screens of a flow are elements of the document. -/
theorem mem_sites_of_flow {kinds : List String} {f : Flow} (hf : flowOf? kinds (edgesOf d) = some f)
    {screen : Screen} (hscreen : screen ∈ f.root :: f.children) : ∀ s ∈ screen.site, s ∈ d.sites := by
  obtain ⟨e, he, rfl⟩ := viewController?_of_mem hf hscreen
  obtain ⟨w, hw, hsite⟩ := site_of_viewController? he
  intro s hs
  have hs : w = s := Option.some.inj (hsite.symm.trans hs)
  rw [controllers, EdgeKind.sites] at hw
  exact hs ▸ List.mem_of_mem_filter hw

/-- So are the screens of tabs. -/
theorem mem_sites_of_tab {entry : TabEntry} (hentry : entry ∈ tabEntriesOf d) :
    ∀ s ∈ entry.site, s ∈ d.sites := by
  intro s hs
  obtain ⟨bar, -, hentry⟩ := List.mem_flatMap.mp hentry
  obtain ⟨segue, -, rfl⟩ := List.mem_map.mp hentry
  exact List.mem_of_mem_filter (List.mem_of_head? hs)

end

/-- The result of a conversion is that of the way that its document asks for. -/
theorem convert_result (settings : Settings) (now : Binary64) (d : Document) :
    (convert settings now d).result =
    match modeOf d.site with
    | .tab => (tabFiles settings now (tabEntriesOf d)).result
    | .flow =>
      match flowOf? settings.flowSegueKinds (edgesOf d) with
      | some f => (flowFiles settings now f).result
      | none => (flatFiles settings now d.site).result
    | .flat => (flatFiles settings now d.site).result := by
  obtain ⟨us, hus⟩ := Logged.exists_mapM_note id (elementNotices d d.site)
  have hus : ((elementNotices d d.site).mapM Logged.note).result = .ok us := hus
  simp only [convert, convertSite, Logged.bind_result, hus]
  cases modeOf d.site with
  | tab | flat => rfl
  | flow =>
    change (match flowOf? settings.flowSegueKinds (edgesOf d) with
      | some f => flowFiles settings now f
      | none => do
        Logged.note .flowUnavailable
        flatFiles settings now d.site).result = _
    cases flowOf? settings.flowSegueKinds (edgesOf d) <;> rfl

/-- A document is converted in whichever mode it asks for. -/
theorem exists_siteFiles {settings : Settings} (now : Binary64) {d : Document}
    (hd : d.root.isUnseparated = true) (hs : settings.hasFinitePadding = true) :
    ∃ files, (convertSite settings now d d.site).result = .ok files := by
  have hsites := Document.isUnseparated_sites hd
  have hflat := exists_flatFiles hs now (s := d.site) hd
  change ∃ files, (convert settings now d).result = .ok files
  rw [convert_result]
  cases modeOf d.site with
  | tab => exact exists_tabFiles hs now fun entry hentry t ht => hsites t (mem_sites_of_tab hentry t ht)
  | flow =>
    cases hf : flowOf? settings.flowSegueKinds (edgesOf d) with
    | some f =>
      exact exists_flowFiles hs now fun t ht => hsites t (mem_sites_of_flow hf List.mem_cons_self t ht)
    | none => exact hflat
  | flat => exact hflat

/-- **Every document is converted.** If no attribute has a separator in its value and the bounds of the
padding are finite, a conversion ends with files, in whichever mode. -/
theorem convert_total (settings : Settings) (now : Binary64) (d : Document)
    (hd : d.root.isUnseparated = true) (hs : settings.hasFinitePadding = true) :
    ∃ files, (convert settings now d).result = .ok files := exists_siteFiles now hd hs

/-- A screen whose positions and slider value are beyond all finite numbers, in a stack and below it. -/
def farApart : Document :=
  ⟨plainTag "document" [], [plain "scenes" [] [plain "scene" [] [plain "objects" []
    [plain "viewController" [("id", "v")]
      [plain "stackView" [("axis", "vertical")] [plain "subviews" []
        [plain "label" [("id", "a")] [plain "rect" [("key", "frame"), ("y", "1e400")] []],
          plain "label" [("id", "b")] [plain "rect" [("key", "frame"), ("y", "-1e400")] []]]],
        plain "slider" [("id", "c"), ("value", "1e400")]
          [plain "rect" [("key", "frame"), ("y", "1e400")] []]]]]]]⟩

theorem convert_total_farApart : farApart.root.isUnseparated = true ∧
    Settings.standard.hasFinitePadding = true ∧
    ∃ files, (convert Settings.standard 42 farApart).result = .ok files := by
  have hd : farApart.root.isUnseparated = true := by decide +kernel
  have hs : Settings.standard.hasFinitePadding = true := by decide +kernel
  exact ⟨hd, hs, convert_total Settings.standard 42 farApart hd hs⟩

end Storyboard
