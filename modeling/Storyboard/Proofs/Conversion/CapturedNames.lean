import Storyboard.Proofs.Conversion.ViewNames
/-!
# Views named like those of SwiftUI

Inside the files of a conversion the name of a generated view hides whatever SwiftUI calls so. Names are
chosen to differ from each other, not from the names of SwiftUI, but they end in `View` or in a number,
and so only three names of SwiftUI can be hidden, each by one base.

* `nameCandidate_mem_swiftUINames`: the candidates that SwiftUI has taken.
* `mem_unusedNames_iff`: the names of SwiftUI among names chosen in turn.
* `captured_iff`: when the view of a file hides a view of SwiftUI.
-/
namespace Storyboard

open Storyboard.Layout
open Storyboard.Markup
open Storyboard.Navigation
open Storyboard.Number (Binary64)
open Storyboard.Swift

/-- The names of SwiftUI that generated files use for types and views. -/
def swiftUINames : List String :=
  ["View", "TabView", "ScrollView", "Text", "Button", "TextField", "TextEditor", "Image", "Slider",
    "Toggle", "Picker", "ForEach", "DatePicker", "Date", "List", "Spacer", "HStack", "VStack",
    "NavigationStack", "NavigationLink", "Label"]

/-- The bases that make a name of SwiftUI. -/
def capturingBases : List String := ["", "Tab", "Scroll"]

/-! ## Candidates -/

/-- A numbered name ends in a digit. -/
theorem numbered_not_mem {names : List String}
    (hnames : ∀ x ∈ names, x.toList.getLast?.any Char.isDigit = false) (stem : String) (n : Nat) :
    stem ++ toString n ∉ names := by
  intro hmem
  have hnumber : (toString n).toList = Nat.toDigits 10 n := by simp [Nat.toString_eq_repr]
  have hne : Nat.toDigits 10 n ≠ [] := Nat.toDigits_ne_nil
  have hlast : (stem ++ toString n).toList.getLast? = some ((Nat.toDigits 10 n).getLast hne) := by
    rw [String.toList_append, hnumber, List.getLast?_append_of_ne_nil _ hne,
      List.getLast?_eq_some_getLast]
  have hdigit : ((Nat.toDigits 10 n).getLast hne).isDigit = true :=
    Nat.isDigit_of_mem_toDigits (by decide) (by decide) (List.getLast_mem hne)
  have hnone := hnames _ hmem
  rw [hlast, Option.any_some, hdigit] at hnone
  cases hnone

theorem numbered_not_mem_swiftUINames (stem : String) (n : Nat) : stem ++ toString n ∉ swiftUINames :=
  numbered_not_mem (by decide) stem n

/-- Of the names of SwiftUI, three are a base and `View`. -/
theorem view_mem_swiftUINames {base : String} :
    base ++ "View" ∈ swiftUINames ↔ base ∈ capturingBases := by
  constructor
  · intro hmem
    have hbases : ∀ x ∈ swiftUINames, "View".toList <:+ x.toList →
        String.ofList (x.toList.take (x.toList.length - 4)) ∈ capturingBases := by
      decide
    have hbase := hbases _ hmem (by simp)
    simpa using hbase
  · intro hmem
    have hnames : ∀ x ∈ capturingBases, x ++ "View" ∈ swiftUINames := by decide
    exact hnames base hmem

/-- A candidate is a name of SwiftUI exactly if it is the first for one of three bases. -/
theorem nameCandidate_mem_swiftUINames {base : String} {n : Nat} :
    nameCandidate base n ∈ swiftUINames ↔ n = 0 ∧ base ∈ capturingBases := by
  unfold nameCandidate
  split
  · rename_i hn
    rw [view_mem_swiftUINames]
    exact (and_iff_right hn).symm
  · rename_i hn
    refine iff_of_false (numbered_not_mem_swiftUINames _ _) fun h => hn h.1

/-! ## Names chosen in turn -/

/-- A name of SwiftUI that is not used before is chosen exactly if one of the bases makes it. -/
theorem mem_unusedNames_iff {used bases : List String} {x : String} (hx : x ∈ swiftUINames)
    (hused : x ∉ used) :
    x ∈ unusedNames used bases ↔ ∃ base ∈ bases, base ∈ capturingBases ∧ x = base ++ "View" := by
  constructor
  · intro hmem
    obtain ⟨base, hbase, n, rfl⟩ := exists_candidate_of_mem hmem
    obtain ⟨rfl, hcapturing⟩ := nameCandidate_mem_swiftUINames.mp hx
    exact ⟨base, hbase, hcapturing, rfl⟩
  · rintro ⟨base, hbase, -, rfl⟩
    exact (first_candidate_used hbase).resolve_left hused

section
variable {settings : Settings} {now : Binary64}

/-! ## Screen by screen -/

theorem flat_not_mem_swiftUINames {s : Site} {files : List ViewFile}
    (h : (flatFiles settings now s).result = .ok files) : ∀ file ∈ files, file.name ∉ swiftUINames := by
  simp only [flatFiles, Logged.bind_result_eq_ok] at h
  obtain ⟨_, _, h⟩ := h
  split at h
  · split at h
    · simp only [Logged.pure_result_eq_ok] at h
      subst h
      simp
    · rcases flatFile_result h with rfl | ⟨file, rfl, hname, -⟩
      · simp
      · intro g hg
        rw [List.mem_singleton.mp hg, hname]
        decide
  · intro file hfile
    obtain ⟨⟨i, -, hname⟩, -⟩ := (numberedFiles_result h).2 file hfile
    rw [hname]
    exact numbered_not_mem_swiftUINames _ i

/-! ## Flows -/

theorem mem_flow_names_iff {kinds : List String} {es : List Edge} {f : Flow}
    (hf : flowOf? kinds es = some f) {files : List ViewFile}
    (h : (flowFiles settings now f).result = .ok files) {x : String} (hx : x ∈ swiftUINames) :
    x ∈ files.map ViewFile.name ↔ ∃ s ∈ f.root :: f.children,
      s.storyboardId ∈ ["", "Tab", "Scroll"] ∧ x = s.storyboardId ++ "View" := by
  rw [flow_names h, mem_unusedNames_iff hx (List.not_mem_nil)]
  constructor
  · rintro ⟨base, hmem, hcapturing, rfl⟩
    obtain ⟨s, hs, rfl⟩ := List.mem_map.mp hmem
    exact ⟨s, (mem_kept_iff hf).mp hs, hcapturing, rfl⟩
  · rintro ⟨s, hs, hcapturing, rfl⟩
    exact ⟨_, List.mem_map_of_mem ((mem_kept_iff hf).mpr hs), hcapturing, rfl⟩

/-! ## Tabs -/

/-- A tab's base makes a name of SwiftUI only if it is the class of its view controller. -/
theorem tabBase_mem_capturingBases {i : Nat} {entry : TabEntry} :
    tabBase i entry ∈ capturingBases ↔ entry.className ∈ ["Tab", "Scroll"] := by
  unfold tabBase
  split
  · rename_i hempty
    have hnone : entry.className = "" := by simpa using hempty
    have hnumbered : "Tab" ++ toString i ∉ capturingBases := numbered_not_mem (by decide) "Tab" i
    exact iff_of_false hnumbered (by simp [hnone])
  · rename_i hclass
    have hne : entry.className ≠ "" := by simpa using hclass
    simp [capturingBases, hne]

theorem mem_tab_names_iff {entries : List TabEntry} {files : List ViewFile}
    (h : (tabFiles settings now entries).result = .ok files) {x : String} (hx : x ∈ swiftUINames) :
    x ∈ files.map ViewFile.name ↔
      ∃ entry ∈ entries, entry.className ∈ ["Tab", "Scroll"] ∧ x = entry.className ++ "View" := by
  have hbar : x ∉ [tabBarName] := by
    intro hmem
    rw [List.mem_singleton.mp hmem] at hx
    revert hx
    decide
  rw [tab_names h, List.mem_append, or_iff_left hbar, mem_unusedNames_iff hx hbar]
  -- an entry whose class makes the name has that class for its base
  have hbase : ∀ {i : Nat} {entry : TabEntry}, entry.className ∈ ["Tab", "Scroll"] →
      tabBase i entry = entry.className := by
    intro i entry hclass
    have hne : entry.className ≠ "" := by
      intro hempty
      rw [hempty] at hclass
      simp at hclass
    simp [tabBase, hne]
  constructor
  · rintro ⟨base, hmem, hcapturing, rfl⟩
    obtain ⟨⟨entry, i⟩, hentry, rfl⟩ := List.mem_map.mp hmem
    have hclass := tabBase_mem_capturingBases.mp hcapturing
    have hentries : entry ∈ (entries.zipIdx 1).map Prod.fst := List.mem_map_of_mem hentry
    rw [List.zipIdx_map_fst] at hentries
    exact ⟨entry, hentries, hclass, congrArg (· ++ "View") (hbase hclass)⟩
  · rintro ⟨entry, hentry, hclass, rfl⟩
    rw [← List.zipIdx_map_fst 1 entries, List.mem_map] at hentry
    obtain ⟨⟨entry, i⟩, hi, rfl⟩ := hentry
    refine ⟨tabBase i entry, List.mem_map.mpr ⟨(entry, i), hi, rfl⟩,
      tabBase_mem_capturingBases.mpr hclass, by rw [hbase hclass]⟩

end

/-- **When a view hides one of SwiftUI.** The files of a conversion have a view named like one of SwiftUI
exactly if the class of a tab's view controller is `Tab` or `Scroll`, or if the storyboard id of a screen
of the flow is one of these or empty. So only `TabView`, `ScrollView` and `View` can be hidden, and all
other names keep the meaning that SwiftUI gives them. -/
theorem captured_iff (settings : Settings) (now : Binary64) (d : Document) (files : List ViewFile)
    (h : (convert settings now d).result = .ok files) (x : String) (hx : x ∈ swiftUINames) :
    x ∈ files.map ViewFile.name ↔
      (modeOf d.site = .tab ∧ ∃ entry ∈ tabEntriesOf d, entry.className ∈ ["Tab", "Scroll"] ∧
        x = entry.className ++ "View") ∨
      (∃ f, modeOf d.site = .flow ∧ flowOf? settings.flowSegueKinds (edgesOf d) = some f ∧
        ∃ s ∈ f.root :: f.children, s.storyboardId ∈ ["", "Tab", "Scroll"] ∧
          x = s.storyboardId ++ "View") := by
  rcases convert_cases h with ⟨hmode, h⟩ | ⟨f, hmode, hf, h⟩ | ⟨hmode, h⟩
  · rw [mem_tab_names_iff h hx]
    simp [hmode]
  · rw [mem_flow_names_iff hf h hx]
    simp [hmode, hf]
  · have hnone : x ∉ files.map ViewFile.name := by
      intro hmem
      obtain ⟨file, hfile, rfl⟩ := List.mem_map.mp hmem
      exact flat_not_mem_swiftUINames h file hfile hx
    rcases hmode with hmode | ⟨hmode, hf⟩
    · simp [hmode, hnone]
    · simp [hmode, hf, hnone]

/-- A tab whose view controller is of class `Tab`. -/
def tabOfTab : Document :=
  ⟨plainTag "document" [], [plain "scenes" [] [plain "scene" [] [plain "objects" []
    [plain "tabBarController" []
      [plain "segue" [("relationship", "viewControllers"), ("destination", "a")] []],
      plain "viewController" [("id", "a"), ("customClass", "Tab")] []]]]]⟩

theorem captured_iff_tabOfTab : ∃ files,
    (convert Settings.standard 42 tabOfTab).result = .ok files ∧ "TabView" ∈ swiftUINames ∧
    "TabView" ∈ files.map ViewFile.name := by
  have hname : "TabView" ∈ swiftUINames := by decide
  have htab : ∃ entry ∈ tabEntriesOf tabOfTab, entry.className ∈ ["Tab", "Scroll"] ∧
      "TabView" = entry.className ++ "View" :=
    ⟨_, List.mem_cons_self, by decide +kernel, by decide +kernel⟩
  refine ⟨_, rfl, hname, ?_⟩
  exact (captured_iff Settings.standard 42 tabOfTab _ rfl "TabView" hname).mpr
    (.inl ⟨by decide +kernel, htab⟩)

/-- The view of that tab hides the one that holds the tabs. -/
theorem tabView_captured : ¬∀ (settings : Settings) (now : Binary64) (d : Document)
    (files : List ViewFile), (convert settings now d).result = .ok files →
      ∀ x ∈ swiftUINames, x ∉ files.map ViewFile.name := by
  intro hnone
  have hfiles : ∃ files, (convert Settings.standard 42 tabOfTab).result = .ok files ∧
      files.map ViewFile.name = ["TabView", "TabContentView"] :=
    ⟨_, rfl, by decide +kernel⟩
  obtain ⟨files, hconvert, hnames⟩ := hfiles
  have hfree := hnone Settings.standard 42 tabOfTab files hconvert "TabView" (by decide)
  rw [hnames] at hfree
  exact hfree List.mem_cons_self

end Storyboard
