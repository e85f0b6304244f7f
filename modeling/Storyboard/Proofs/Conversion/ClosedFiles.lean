import Storyboard.Proofs.Conversion.Totality
import Storyboard.Proofs.Swift.FreshNames
import Storyboard.Proofs.Text.Joining
/-!
# The files of a conversion are closed

The files of one conversion declare views and refer to views. Each declares the view that it is
named for, no two declare the same one, and whatever a file refers to, one of the files declares.

* `Presents`: what the text of a file declares and previews.
* `Refers`: the views that a file refers to by computed names.
* `FlowFiles`, `TabFiles`: how the files of a flow and of a tab bar answer to its screens.
* `convert_closed`: the files of every conversion that ends are closed.
-/
namespace Storyboard

open Storyboard.Layout
open Storyboard.Markup
open Storyboard.Navigation
open Storyboard.Number (Binary64)
open Storyboard.Swift
open Storyboard.Text

/-! ## What a file shows -/

/-- The text declares the view `name` in front, and ends with a preview of it. -/
def Presents (name text : String) : Prop :=
  ∃ middle, text = "import SwiftUI\n\nstruct " ++ name ++ ": View \x7b\n" ++ middle ++
    "#if DEBUG\n#Preview \x7b\n    " ++ name ++ "()\n\x7d\n#endif\n"

theorem presents_ofLines (name : String) (inner : List String) :
    Presents name (ViewFile.ofLines name inner).text := by
  refine ⟨"    var body: some View \x7b\n" ++ linesText inner ++ "    \x7d\n\x7d\n\n", ?_⟩
  simp only [ViewFile.ofLines, linesText_append]
  apply String.toList_inj.mp
  simp [linesText, header, footer]

section
variable (settings : Settings) (now : Binary64)

/-- The text is the body of the screen: its components in a column. -/
def IsBody (screen : Option Site) (body : String) : Prop :=
  ∃ cs, screenComponents now settings.placeholderText screen = .ok cs ∧
    screenBody settings cs = .ok body

/-- The file shows a screen. -/
def ShowsScreen (screen : Option Site) (file : ViewFile) : Prop :=
  ∃ body, IsBody settings now screen body ∧ file = screenFile file.name body

/-- The file shows the first screen of a flow, with links. -/
def ShowsFlow (f : Flow) (links : List Link) (file : ViewFile) : Prop :=
  ∃ body, IsBody settings now f.root.site body ∧
    file = flowRootFile file.name f.root.storyboardId body links

/-- The file shows a tab for each entry, with the entry's title and icon. -/
def ShowsTabs (entries : List TabEntry) (tabs : List Tab) (file : ViewFile) : Prop :=
  List.Forall₂ (fun (entry, i) tab => tab = tabOf settings i tab.view entry) (entries.zipIdx 1) tabs ∧
    file = tabBarFile file.name tabs

/-- The views that a file made for a document refers to by computed names: its own in the preview, and
those behind its links or tabs. -/
inductive Refers (d : Document) (file : ViewFile) : List String → Prop where
  | screen (screen : Option Site) (h : ShowsScreen settings now screen file) : Refers d file [file.name]
  | flowRoot (f : Flow) (links : List Link)
    (hf : flowOf? settings.flowSegueKinds (edgesOf d) = some f)
    (h : ShowsFlow settings now f links file) : Refers d file (file.name :: links.map Link.view)
  | flowChild (title : String) (h : file = flowChildFile file.name title) : Refers d file [file.name]
  | tabBar (tabs : List Tab) (h : ShowsTabs settings (tabEntriesOf d) tabs file) :
    Refers d file (file.name :: tabs.map Tab.view)

end

variable {settings : Settings} {now : Binary64}

theorem presents_of_eq {file : ViewFile} {inner : List String}
    (h : file = .ofLines file.name inner) : Presents file.name file.text := by
  have hpresents := presents_ofLines file.name inner
  rwa [← h] at hpresents

theorem Refers.presents {d : Document} {file : ViewFile} {views : List String}
    (h : Refers settings now d file views) : Presents file.name file.text := by
  cases h with
  | screen _ h => obtain ⟨_, -, hf⟩ := h; exact presents_of_eq hf
  | flowRoot _ _ _ h => obtain ⟨_, -, hf⟩ := h; exact presents_of_eq hf
  | flowChild _ h => exact presents_of_eq h
  | tabBar _ h => exact presents_of_eq h.2

theorem components_result {screen : Option Site} {cs : List Component}
    (h : (components settings now screen).result = .ok cs) :
    screenComponents now settings.placeholderText screen = .ok cs := by
  simp only [components, Logged.bind_result_eq_ok, Logged.pure_result_eq_ok, Logged.lift_result,
    mapError_eq_ok] at h
  obtain ⟨_, hcs, _, _, rfl⟩ := h
  exact hcs

theorem viewFile_result {name : String} {cs : List Component} {file : ViewFile}
    (h : (viewFile settings name cs).result = .ok file) :
    ∃ body, screenBody settings cs = .ok body ∧ file = screenFile name body := by
  simp only [viewFile, Logged.bind_result_eq_ok, Logged.pure_result_eq_ok, Logged.lift_result] at h
  obtain ⟨body, hbody, rfl⟩ := h
  exact ⟨body, hbody, rfl⟩

/-! ## Screen by screen -/

/-- A screen has no file if it has no components, and else the file of its components. -/
theorem flatFile_cases {name : String} {screen : Site} {files : List ViewFile}
    (h : (flatFile settings now name screen).result = .ok files) :
    ∃ cs, screenComponents now settings.placeholderText (some screen) = .ok cs ∧
      (cs = [] ∧ files = [] ∨
        cs ≠ [] ∧ ∃ file, (viewFile settings name cs).result = .ok file ∧ files = [file]) := by
  simp only [flatFile, Logged.bind_result_eq_ok] at h
  obtain ⟨cs, hcs, h⟩ := h
  refine ⟨cs, components_result hcs, ?_⟩
  split at h
  · rename_i hempty
    simp only [Logged.bind_result_eq_ok, Logged.pure_result_eq_ok] at h
    obtain ⟨_, _, rfl⟩ := h
    exact .inl ⟨List.isEmpty_iff.mp hempty, rfl⟩
  · rename_i hempty
    simp only [Logged.bind_result_eq_ok, Logged.pure_result_eq_ok] at h
    obtain ⟨file, hfile, rfl⟩ := h
    exact .inr ⟨mt List.isEmpty_iff.mpr hempty, file, hfile, rfl⟩

theorem flatFile_result {name : String} {screen : Site} {files : List ViewFile}
    (h : (flatFile settings now name screen).result = .ok files) :
    files = [] ∨
      ∃ file, files = [file] ∧ file.name = name ∧ ShowsScreen settings now (some screen) file := by
  obtain ⟨cs, hcs, ⟨-, rfl⟩ | ⟨-, file, hfile, rfl⟩⟩ := flatFile_cases h
  · exact .inl rfl
  · obtain ⟨body, hbody, rfl⟩ := viewFile_result hfile
    exact .inr ⟨_, rfl, rfl, body, ⟨cs, hcs, hbody⟩, rfl⟩

/-- Screens numbered from `i` on get different names, each with a number from `i` on. -/
theorem numberedFiles_result {i : Nat} {screens : List Site} {files : List ViewFile}
    (h : (numberedFiles settings now i screens).result = .ok files) :
    (files.map ViewFile.name).Nodup ∧ ∀ file ∈ files,
      (∃ j, i ≤ j ∧ file.name = "GeneratedView" ++ toString j) ∧
        ∃ screen, ShowsScreen settings now screen file := by
  induction screens generalizing i files with
  | nil =>
    simp only [numberedFiles, Logged.pure_result_eq_ok] at h
    subst h
    simp
  | cons screen rest ih =>
    simp only [numberedFiles, Logged.bind_result_eq_ok, Logged.pure_result_eq_ok] at h
    obtain ⟨here, hhere, below, hbelow, rfl⟩ := h
    obtain ⟨hnodup, hall⟩ := ih hbelow
    rcases flatFile_result hhere with rfl | ⟨file, rfl, hname, hfile⟩
    · refine ⟨hnodup, fun g hg => ?_⟩
      obtain ⟨⟨j, hj, hg'⟩, hs⟩ := hall g hg
      exact ⟨⟨j, by omega, hg'⟩, hs⟩
    · constructor
      · refine List.nodup_cons.mpr ⟨fun hmem => ?_, hnodup⟩
        obtain ⟨g, hg, heq⟩ := List.mem_map.mp hmem
        obtain ⟨⟨j, hj, hg'⟩, -⟩ := hall g hg
        rw [hname, hg'] at heq
        have := append_toString_inj heq
        omega
      · intro g hg
        rcases List.mem_cons.mp hg with rfl | hg
        · exact ⟨⟨i, Nat.le_refl i, hname⟩, some screen, hfile⟩
        · obtain ⟨⟨j, hj, hg'⟩, hs⟩ := hall g hg
          exact ⟨⟨j, by omega, hg'⟩, hs⟩

theorem flatFiles_result {s : Site} {files : List ViewFile}
    (h : (flatFiles settings now s).result = .ok files) :
    (files.map ViewFile.name).Nodup ∧
      ∀ file ∈ files, ∃ screen, ShowsScreen settings now screen file := by
  simp only [flatFiles, Logged.bind_result_eq_ok] at h
  obtain ⟨_, _, h⟩ := h
  split at h
  · split at h
    · simp only [Logged.pure_result_eq_ok] at h
      subst h
      simp
    · rcases flatFile_result h with rfl | ⟨file, rfl, -, hfile⟩
      · simp
      · exact ⟨by simp, fun g hg => by rw [List.mem_singleton.mp hg]; exact ⟨_, hfile⟩⟩
  · obtain ⟨hnodup, hall⟩ := numberedFiles_result h
    exact ⟨hnodup, fun file hfile => (hall file hfile).2⟩

/-! ## Flows -/

/-- The files of a flow. That of the first screen comes first; one more stands for each other id among
the screens that segues lead to, in the order of first occurrence, showing the first screen of that
id. The links of the first file name the others one by one. -/
def FlowFiles (settings : Settings) (now : Binary64) (f : Flow) (files : List ViewFile) : Prop :=
  ∃ root children links screens,
    files = root :: children ∧ ShowsFlow settings now f links root ∧
    links.map Link.view = children.map ViewFile.name ∧
    links.map Link.title = screens.map Screen.storyboardId ∧
    screens.map Screen.id = ((f.children.map Screen.id).filter (· != f.root.id)).eraseDups ∧
    (∀ s ∈ screens, f.children.find? (·.id == s.id) = some s) ∧
    List.Forall₂ (fun s file => file = flowChildFile file.name s.storyboardId) screens children

theorem distinctScreens_ids (seen : List String) (ss : List Screen) :
    (distinctScreens seen ss).1.map Screen.id =
      ((ss.map Screen.id).filter (!seen.contains ·)).eraseDups := by
  induction ss generalizing seen with
  | nil => simp [distinctScreens]
  | cons s rest ih =>
    unfold distinctScreens
    by_cases hs : seen.contains s.id
    · simp only [hs, if_true, ih, List.map_cons, Bool.not_true, Bool.false_eq_true, not_false_eq_true,
        List.filter_cons_of_neg]
    · simp only [hs, if_false, Bool.false_eq_true, List.map_cons, ih, Bool.not_false,
        List.filter_cons_of_pos, List.eraseDups_cons, List.filter_filter, List.contains_cons]
      congr 3
      funext id
      simp [Bool.not_or]

/-- A screen that is kept is the first of its id. -/
theorem find?_of_mem_distinctScreens {seen : List String} {ss : List Screen} {s : Screen}
    (h : s ∈ (distinctScreens seen ss).1) :
    s.id ∉ seen ∧ ss.find? (·.id == s.id) = some s := by
  induction ss generalizing seen with
  | nil => simp [distinctScreens] at h
  | cons t rest ih =>
    unfold distinctScreens at h
    by_cases ht : seen.contains t.id
    · simp only [ht, if_true] at h
      obtain ⟨hs, hfind⟩ := ih h
      have hne : t.id ≠ s.id := by rintro he; exact hs (he ▸ by simpa using ht)
      exact ⟨hs, by simp [hne, hfind]⟩
    · simp only [ht, if_false, Bool.false_eq_true, List.mem_cons] at h
      rcases h with rfl | h
      · exact ⟨by simpa using ht, by simp⟩
      · obtain ⟨hs, hfind⟩ := ih h
        simp only [List.mem_cons, not_or] at hs
        exact ⟨hs.2, by simp [Ne.symm hs.1, hfind]⟩

theorem namedScreens_screens (used : List String) (ss : List Screen) :
    (namedScreens used ss).map Prod.fst = ss := by
  induction ss generalizing used with
  | nil => rfl
  | cons s rest ih => simp [namedScreens, ih]

theorem namedScreens_names (used : List String) (ss : List Screen) :
    (namedScreens used ss).map Prod.snd = unusedNames used (ss.map Screen.storyboardId) := by
  induction ss generalizing used with
  | nil => rfl
  | cons s rest ih => simp [namedScreens, unusedNames, ih]

/-- Screens get names that differ from each other and from the names used before. -/
theorem namedScreens_fresh (used : List String) (ss : List Screen) :
    ((namedScreens used ss).map Prod.snd).Nodup ∧
      ∀ named ∈ namedScreens used ss, named.2 ∉ used := by
  obtain ⟨hnodup, hfresh⟩ := unusedNames_fresh used (ss.map Screen.storyboardId)
  rw [← namedScreens_names] at hnodup hfresh
  exact ⟨hnodup, fun named hn => hfresh named.2 (List.mem_map_of_mem hn)⟩

/-- The screens of a flow other than the first, with the names of their views. -/
def linkedNames (f : Flow) : List (Screen × String) :=
  namedScreens [unusedName f.root.storyboardId []] (distinctScreens [f.root.id] f.children).1

/-- The links to them. -/
def linksOf (f : Flow) : List Link := (linkedNames f).map fun (s, name) => ⟨s.storyboardId, name⟩

theorem flowFiles_result {f : Flow} {files : List ViewFile}
    (h : (flowFiles settings now f).result = .ok files) :
    ∃ body, IsBody settings now f.root.site body ∧
      files =
        flowRootFile (unusedName f.root.storyboardId []) f.root.storyboardId body (linksOf f) ::
        (linkedNames f).map fun (s, name) => flowChildFile name s.storyboardId := by
  simp only [flowFiles, Logged.bind_result_eq_ok] at h
  obtain ⟨cs, hcs, h⟩ := h
  -- the notice about an empty first screen changes nothing but the notices
  split at h <;> simp only [Logged.bind_result_eq_ok, Logged.pure_result_eq_ok, Logged.lift_result] at h
  · obtain ⟨_, _, _, _, body, hbody, rfl⟩ := h
    exact ⟨body, ⟨cs, components_result hcs, hbody⟩, rfl⟩
  · obtain ⟨_, _, body, hbody, rfl⟩ := h
    exact ⟨body, ⟨cs, components_result hcs, hbody⟩, rfl⟩

theorem flowFiles_closed {f : Flow} {files : List ViewFile}
    (h : (flowFiles settings now f).result = .ok files) :
    FlowFiles settings now f files ∧ (files.map ViewFile.name).Nodup := by
  obtain ⟨body, hbody, rfl⟩ := flowFiles_result h
  have hscreens : (linkedNames f).map Prod.fst = (distinctScreens [f.root.id] f.children).1 :=
    namedScreens_screens _ _
  obtain ⟨hnodup, hfresh⟩ := namedScreens_fresh [unusedName f.root.storyboardId []]
    (distinctScreens [f.root.id] f.children).1
  constructor
  · refine ⟨_, _, _, (linkedNames f).map Prod.fst, rfl, ⟨body, hbody, rfl⟩, ?_, ?_, ?_, ?_, ?_⟩
    · simp [linksOf, flowChildFile, ViewFile.ofLines]
    · simp [linksOf]
    · rw [hscreens, distinctScreens_ids]
      congr 2
      funext id
      by_cases hid : id = f.root.id <;> simp [hid]
    · intro s hs
      exact (find?_of_mem_distinctScreens (hscreens ▸ hs)).2
    · rw [List.forall₂_map_left_iff, List.forall₂_map_right_iff]
      exact List.forall₂_same.mpr fun _ _ => rfl
  · have hnames : ((linkedNames f).map fun (s, name) => flowChildFile name s.storyboardId).map
        ViewFile.name = (linkedNames f).map Prod.snd := by
      simp [flowChildFile, ViewFile.ofLines]
    rw [List.map_cons, hnames]
    refine List.nodup_cons.mpr ⟨fun hmem => ?_, hnodup⟩
    obtain ⟨named, hn, heq⟩ := List.mem_map.mp hmem
    exact hfresh named hn (by simpa [flowRootFile, ViewFile.ofLines] using heq)

/-! ## Tabs -/

/-- The files of tabs: one for each tab, showing its screen, and that of the tab bar last. The tabs of
the bar name the other files one by one, none of which has the bar's name. -/
def TabFiles (settings : Settings) (now : Binary64) (entries : List TabEntry)
    (files : List ViewFile) : Prop :=
  ∃ screens bar tabs,
    files = screens ++ [bar] ∧ bar.name = tabBarName ∧ ShowsTabs settings entries tabs bar ∧
    tabs.map Tab.view = screens.map ViewFile.name ∧
    tabBarName ∉ screens.map ViewFile.name ∧
    List.Forall₂ (fun entry file => ShowsScreen settings now entry.site file) entries screens

theorem tabViews_result {i : Nat} {used : List String} {entries : List TabEntry}
    {views : List (ViewFile × Tab)}
    (h : (tabViews settings now i used entries).result = .ok views) :
    List.Forall₂ (fun entry view => ShowsScreen settings now entry.site view.1) entries views ∧
      List.Forall₂ (fun (entry, j) view => view.2 = tabOf settings j view.1.name entry)
        (entries.zipIdx i) views := by
  induction entries generalizing i used views with
  | nil =>
    simp only [tabViews, Logged.pure_result_eq_ok] at h
    subst h
    simp
  | cons entry rest ih =>
    simp only [tabViews, Logged.bind_result_eq_ok, Logged.pure_result_eq_ok] at h
    obtain ⟨cs, hcs, file, hfile, below, hbelow, rfl⟩ := h
    obtain ⟨hall, htabs⟩ := ih hbelow
    obtain ⟨body, hbody, rfl⟩ := viewFile_result hfile
    exact ⟨.cons ⟨body, ⟨cs, components_result hcs, hbody⟩, rfl⟩ hall, .cons rfl htabs⟩

theorem tabViews_names {i : Nat} {used : List String} {entries : List TabEntry}
    {views : List (ViewFile × Tab)}
    (h : (tabViews settings now i used entries).result = .ok views) :
    views.map (·.1.name) = unusedNames used ((entries.zipIdx i).map fun (entry, j) => tabBase j entry) := by
  induction entries generalizing i used views with
  | nil =>
    simp only [tabViews, Logged.pure_result_eq_ok] at h
    subst h
    rfl
  | cons entry rest ih =>
    simp only [tabViews, Logged.bind_result_eq_ok, Logged.pure_result_eq_ok] at h
    obtain ⟨cs, -, file, hfile, below, hbelow, rfl⟩ := h
    obtain ⟨body, -, rfl⟩ := viewFile_result hfile
    simp only [List.map_cons, List.zipIdx_cons, unusedNames, ih hbelow]
    rfl

theorem tabFiles_closed {entries : List TabEntry} {files : List ViewFile}
    (h : (tabFiles settings now entries).result = .ok files) :
    TabFiles settings now entries files ∧ (files.map ViewFile.name).Nodup := by
  simp only [tabFiles, Logged.bind_result_eq_ok, Logged.pure_result_eq_ok] at h
  obtain ⟨views, hviews, rfl⟩ := h
  obtain ⟨hall, htabs⟩ := tabViews_result hviews
  obtain ⟨hnodup, hfresh⟩ := unusedNames_fresh [tabBarName]
    ((entries.zipIdx 1).map fun (entry, i) => tabBase i entry)
  rw [← tabViews_names hviews] at hnodup hfresh
  have hnames : (views.map Prod.snd).map Tab.view = (views.map Prod.fst).map ViewFile.name := by
    rw [List.map_map, List.map_map]
    refine List.map_congr_left fun view hv => ?_
    obtain ⟨_, _, hv'⟩ := exists_left_of_forall₂ htabs hv
    simp [hv', tabOf]
  have hbar : tabBarName ∉ (views.map Prod.fst).map ViewFile.name := by
    intro hmem
    obtain ⟨_, hfile, hname⟩ := List.mem_map.mp hmem
    obtain ⟨view, hv, rfl⟩ := List.mem_map.mp hfile
    exact hfresh _ (List.mem_map_of_mem hv) (by simp [hname])
  constructor
  · refine ⟨views.map Prod.fst, _, views.map Prod.snd, rfl, rfl, ⟨?_, rfl⟩, hnames, hbar, ?_⟩
    · rw [List.forall₂_map_right_iff]
      exact htabs.imp fun entry view hv => by rw [hv]; rfl
    · rw [List.forall₂_map_right_iff]
      exact hall
  · rw [List.map_append, List.nodup_append]
    refine ⟨by rwa [List.map_map], by simp, fun a ha b hb hab => hbar ?_⟩
    have : b = tabBarName := by simpa [tabBarFile, ViewFile.ofLines] using hb
    exact this ▸ hab ▸ ha

/-! ## Every conversion -/

theorem FlowFiles.refers {d : Document} {f : Flow} {files : List ViewFile}
    (hf : flowOf? settings.flowSegueKinds (edgesOf d) = some f)
    (h : FlowFiles settings now f files) : ∀ file ∈ files,
      ∃ views, Refers settings now d file views ∧ views ⊆ files.map ViewFile.name := by
  obtain ⟨root, children, links, screens, rfl, hroot, hlinks, -, -, -, hchildren⟩ := h
  intro file hfile
  rcases List.mem_cons.mp hfile with rfl | hchild
  · refine ⟨_, .flowRoot f links hf hroot, ?_⟩
    rw [hlinks]
    exact List.Subset.refl _
  · obtain ⟨s, -, hs⟩ := exists_left_of_forall₂ hchildren hchild
    exact ⟨[file.name], .flowChild s.storyboardId hs, by simpa using List.mem_map_of_mem hfile⟩

theorem TabFiles.refers {d : Document} {files : List ViewFile}
    (h : TabFiles settings now (tabEntriesOf d) files) : ∀ file ∈ files,
      ∃ views, Refers settings now d file views ∧ views ⊆ files.map ViewFile.name := by
  obtain ⟨screens, bar, tabs, rfl, -, hbar, hnames, -, hscreens⟩ := h
  intro file hfile
  rcases List.mem_append.mp hfile with hscreen | hlast
  · obtain ⟨entry, -, hs⟩ := exists_left_of_forall₂ hscreens hscreen
    exact ⟨[file.name], .screen entry.site hs, by simpa using List.mem_map_of_mem hfile⟩
  · obtain rfl := List.mem_singleton.mp hlast
    refine ⟨_, .tabBar tabs hbar, ?_⟩
    rw [hnames, List.map_append]
    intro view hview
    rcases List.mem_cons.mp hview with rfl | hview
    · simp
    · exact List.mem_append_left _ hview

/-- A name is that of one file only if all names differ. -/
theorem existsUnique_named {files : List ViewFile} (hnodup : (files.map ViewFile.name).Nodup)
    {view : String} (h : view ∈ files.map ViewFile.name) : ∃! f, f ∈ files ∧ f.name = view := by
  obtain ⟨f, hf, rfl⟩ := List.mem_map.mp h
  exact ⟨f, ⟨hf, rfl⟩, fun g hg => List.inj_on_of_nodup_map hnodup hg.1 hf hg.2⟩

/-- The three ways of converting, each with what it says about the files. -/
theorem convert_cases {d : Document} {files : List ViewFile}
    (h : (convert settings now d).result = .ok files) :
    (modeOf d.site = .tab ∧ (tabFiles settings now (tabEntriesOf d)).result = .ok files) ∨
    (∃ f, modeOf d.site = .flow ∧ flowOf? settings.flowSegueKinds (edgesOf d) = some f ∧
      (flowFiles settings now f).result = .ok files) ∨
    ((modeOf d.site = .flat ∨
        modeOf d.site = .flow ∧ flowOf? settings.flowSegueKinds (edgesOf d) = none) ∧
      (flatFiles settings now d.site).result = .ok files) := by
  rw [convert_result] at h
  cases hmode : modeOf d.site with
  | tab => exact .inl ⟨rfl, by simpa only [hmode] using h⟩
  | flat => exact .inr (.inr ⟨.inl rfl, by simpa only [hmode] using h⟩)
  | flow =>
    cases hf : flowOf? settings.flowSegueKinds (edgesOf d) with
    | some f => exact .inr (.inl ⟨f, rfl, rfl, by simpa only [hmode, hf] using h⟩)
    | none => exact .inr (.inr ⟨.inr ⟨rfl, rfl⟩, by simpa only [hmode, hf] using h⟩)

theorem names_nodup {d : Document} {files : List ViewFile}
    (h : (convert settings now d).result = .ok files) : (files.map ViewFile.name).Nodup := by
  rcases convert_cases h with ⟨-, h⟩ | ⟨f, -, -, h⟩ | ⟨-, h⟩
  · exact (tabFiles_closed h).2
  · exact (flowFiles_closed h).2
  · exact (flatFiles_result h).1

/-- Two tabs of one class, whose views would be named like the tab bar. -/
def twoTabs : Document :=
  ⟨plainTag "document" [], [plain "scenes" [] [plain "scene" [] [plain "objects" []
    [plain "tabBarController" []
      [plain "segue" [("relationship", "viewControllers"), ("destination", "a")] [],
        plain "segue" [("relationship", "viewControllers"), ("destination", "b")] []],
      plain "viewController" [("id", "a"), ("customClass", "TabContent")] [],
      plain "viewController" [("id", "b"), ("customClass", "TabContent")] [plain "label" [] []]]]]]⟩

end Storyboard
