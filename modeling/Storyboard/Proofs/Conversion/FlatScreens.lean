import Storyboard.Proofs.Conversion.ClosedFiles
/-!
# Each screen has a file of its own

A document that is converted screen by screen has one file for each screen with components, named by the
number of the screen, so the files come in the order of the screens and a screen without components leaves
a gap. What the file of a screen says depends on the element of the screen alone, not on where it stands
or what stands beside it.

* `elements_sitesIn`, `screenComponents_congr`: the components of a screen are those of its element.
* `IsFileOf`, `IsNumbered`: the file of one screen, and how files answer to numbered screens.
* `isNumbered_numberedFiles`: the files of screens answer to them.
* `flat_by_screen`: two documents with a screen in common.
-/
namespace Storyboard.Markup

/-! ## Elements in another place -/

mutual

theorem Node.elements_sites : ∀ (n : Node) (path path' : List Nat),
    (n.sites path).map Site.element = (n.sites path').map Site.element
  | .element tag children, path, path' => by
    simp only [Node.sites, List.map_cons, elements_sitesIn children path path' 0 0]
  | .text _, _, _ => rfl
  | .comment _, _, _ => rfl
  | .instruction _ _, _, _ => rfl
  | .reference _, _, _ => rfl

/-- Which elements are among nodes and below them does not depend on where the nodes stand. -/
theorem elements_sitesIn : ∀ (ns : List Node) (path path' : List Nat) (i i' : Nat),
    (sitesIn path i ns).map Site.element = (sitesIn path' i' ns).map Site.element
  | [], _, _, _, _ => rfl
  | n :: rest, path, path', i, i' => by
    rw [sitesIn, sitesIn, List.map_append, List.map_append,
      n.elements_sites (path ++ [i]) (path' ++ [i']),
      elements_sitesIn rest path path' (n.next i) (n.next i')]

end

end Storyboard.Markup

namespace Storyboard

open Storyboard.Layout
open Storyboard.Markup
open Storyboard.Number (Binary64)
open Storyboard.Swift

/-- The components of a screen are those of its element. -/
theorem screenComponents_congr (now : Binary64) (placeholder : String) {s t : Site}
    (h : s.element = t.element) :
    screenComponents now placeholder (some s) = screenComponents now placeholder (some t) := by
  have hbelow : s.descendants.map Site.element = t.descendants.map Site.element := by
    rw [Site.descendants, Site.descendants, h]
    exact elements_sitesIn _ _ _ _ _
  have hmapped := congrArg (List.mapM (component? now)) hbelow
  rw [List.mapM_map, List.mapM_map] at hmapped
  simp only [Function.comp_def] at hmapped
  simp only [screenComponents, Option.map_some, Option.getD_some, hmapped]

/-! ## Files and screens -/

/-- The name of the view of a screen, by its number. -/
def numberedName (k : Nat) : String := "GeneratedView" ++ toString k

section
variable (settings : Settings) (now : Binary64)

/-- Is this the list of files for one screen: no file if it has no components, and else the file of its
components under the given name? -/
def IsFileOf (name : String) (screen : Site) (files : List ViewFile) : Prop :=
  ∃ cs, screenComponents now settings.placeholderText (some screen) = .ok cs ∧
    (cs = [] ∧ files = [] ∨
      cs ≠ [] ∧ ∃ file, (viewFile settings name cs).result = .ok file ∧ files = [file])

/-- Do the files answer to screens that are numbered from `i` on? -/
structure IsNumbered (i : Nat) (screens : List Site) (files : List ViewFile) : Prop where
  /-- The files are named by ascending numbers of screens. -/
  names : ∃ numbers : List Nat, numbers.Pairwise (· < ·) ∧
    (∀ k ∈ numbers, i ≤ k ∧ k < i + screens.length) ∧
    files.map ViewFile.name = numbers.map numberedName
  /-- The files that have the number of a screen are the one of this screen, if it has components. -/
  shown : ∀ (j : Nat) (screen : Site), screens[j]? = some screen →
    IsFileOf settings now (numberedName (i + j)) screen
      (files.filter (·.name == numberedName (i + j)))

end

section
variable {settings : Settings} {now : Binary64}

theorem numberedName_inj {j k : Nat} (h : numberedName j = numberedName k) : j = k :=
  append_toString_inj h

/-- The file of a screen depends on its name and on the element of the screen. -/
theorem IsFileOf.unique {name : String} {s t : Site} (h : s.element = t.element)
    {files files' : List ViewFile} (hs : IsFileOf settings now name s files)
    (ht : IsFileOf settings now name t files') : files = files' := by
  obtain ⟨cs, hcs, hfiles⟩ := hs
  obtain ⟨cs', hcs', hfiles'⟩ := ht
  rw [screenComponents_congr now settings.placeholderText h, hcs', Except.ok.injEq] at hcs
  subst hcs
  rcases hfiles with ⟨hnil, rfl⟩ | ⟨hne, file, hfile, rfl⟩
  · rcases hfiles' with ⟨-, rfl⟩ | ⟨hne, -⟩
    · rfl
    · exact absurd hnil hne
  · rcases hfiles' with ⟨hnil, -⟩ | ⟨-, file', hfile', rfl⟩
    · exact absurd hnil hne
    · rw [hfile, Except.ok.injEq] at hfile'
      rw [hfile']

theorem isFileOf_flatFile {name : String} {screen : Site} {files : List ViewFile}
    (h : (flatFile settings now name screen).result = .ok files) :
    IsFileOf settings now name screen files := flatFile_cases h

theorem IsFileOf.name_eq {name : String} {screen : Site} {files : List ViewFile}
    (h : IsFileOf settings now name screen files) {file : ViewFile} (hfile : file ∈ files) :
    file.name = name := by
  obtain ⟨cs, -, ⟨-, rfl⟩ | ⟨-, _, hwritten, rfl⟩⟩ := h
  · cases hfile
  · obtain ⟨body, -, rfl⟩ := viewFile_result hwritten
    exact congrArg ViewFile.name (List.mem_singleton.mp hfile)

theorem IsFileOf.length_le {name : String} {screen : Site} {files : List ViewFile}
    (h : IsFileOf settings now name screen files) : files.length ≤ 1 := by
  obtain ⟨cs, -, ⟨-, rfl⟩ | ⟨-, _, -, rfl⟩⟩ := h
  · exact Nat.zero_le 1
  · exact Nat.le_refl 1

/-- The file of a screen has the number of the screen and no other. -/
theorem IsFileOf.filter_name {i : Nat} {screen : Site} {files : List ViewFile}
    (h : IsFileOf settings now (numberedName i) screen files) (k : Nat) :
    files.filter (·.name == numberedName k) = if k = i then files else [] := by
  split
  · rename_i hk
    subst hk
    exact List.filter_eq_self.mpr fun file hfile => beq_iff_eq.mpr (h.name_eq hfile)
  · rename_i hk
    refine List.filter_eq_nil_iff.mpr fun file hfile hname => hk ?_
    exact numberedName_inj ((beq_iff_eq.mp hname).symm.trans (h.name_eq hfile))

theorem isNumbered_nil (i : Nat) : IsNumbered settings now i [] [] where
  names := ⟨[], .nil, nofun, rfl⟩
  shown := nofun

/-- The files of later screens have later numbers. -/
theorem IsNumbered.number_of_mem {i : Nat} {screens : List Site} {files : List ViewFile}
    (h : IsNumbered settings now i screens files) {file : ViewFile} (hfile : file ∈ files) :
    ∃ k, i ≤ k ∧ file.name = numberedName k := by
  obtain ⟨numbers, -, hbounds, hnames⟩ := h.names
  have hmem := List.mem_map_of_mem (f := ViewFile.name) hfile
  rw [hnames, List.mem_map] at hmem
  obtain ⟨k, hk, hname⟩ := hmem
  exact ⟨k, (hbounds k hk).1, hname.symm⟩

theorem IsNumbered.filter_earlier {i k : Nat} {screens : List Site} {files : List ViewFile}
    (h : IsNumbered settings now i screens files) (hk : k < i) :
    files.filter (·.name == numberedName k) = [] := by
  refine List.filter_eq_nil_iff.mpr fun file hfile hname => ?_
  obtain ⟨j, hj, hnumber⟩ := h.number_of_mem hfile
  have := numberedName_inj (hnumber.symm.trans (beq_iff_eq.mp hname))
  omega

/-- One more screen in front, with its file if it has one. -/
theorem IsNumbered.cons {i : Nat} {screen : Site} {screens : List Site} {here below : List ViewFile}
    (hhere : IsFileOf settings now (numberedName i) screen here)
    (hbelow : IsNumbered settings now (i + 1) screens below) :
    IsNumbered settings now i (screen :: screens) (here ++ below) := by
  constructor
  · obtain ⟨numbers, hascending, hbounds, hnames⟩ := hbelow.names
    have hbounds' : ∀ k ∈ numbers, i < k ∧ k < i + (screens.length + 1) := fun k hk => by
      have := hbounds k hk
      omega
    match here, hhere.length_le with
    | [], _ =>
      exact ⟨numbers, hascending, fun k hk => ⟨(hbounds' k hk).1.le, (hbounds' k hk).2⟩, hnames⟩
    | [file], _ =>
      refine ⟨i :: numbers, List.pairwise_cons.mpr ⟨fun k hk => (hbounds' k hk).1, hascending⟩,
        List.forall_mem_cons.mpr ⟨⟨Nat.le_refl i, by simp⟩,
          fun k hk => ⟨(hbounds' k hk).1.le, (hbounds' k hk).2⟩⟩, ?_⟩
      rw [List.singleton_append, List.map_cons, List.map_cons, hnames,
        hhere.name_eq List.mem_cons_self]
  · intro j t ht
    rw [List.filter_append, hhere.filter_name]
    cases j with
    | zero =>
      rw [List.getElem?_cons_zero, Option.some.injEq] at ht
      rw [Nat.add_zero, if_pos rfl, hbelow.filter_earlier (Nat.lt_succ_self i), List.append_nil, ← ht]
      exact hhere
    | succ j =>
      rw [List.getElem?_cons_succ] at ht
      have hshown := hbelow.shown j t ht
      rw [Nat.add_assoc, Nat.add_comm 1 j] at hshown
      rw [if_neg (by omega), List.nil_append]
      exact hshown

theorem isNumbered_numberedFiles {i : Nat} {screens : List Site} {files : List ViewFile}
    (h : (numberedFiles settings now i screens).result = .ok files) :
    IsNumbered settings now i screens files := by
  induction screens generalizing i files with
  | nil =>
    rw [numberedFiles, Logged.pure_result_eq_ok] at h
    subst h
    exact isNumbered_nil i
  | cons screen rest ih =>
    simp only [numberedFiles, Logged.bind_result_eq_ok, Logged.pure_result_eq_ok] at h
    obtain ⟨here, hhere, below, hbelow, rfl⟩ := h
    exact .cons (isFileOf_flatFile hhere) (ih hbelow)

theorem exists_isNumbered (now : Binary64) {d : Document} (hd : d.root.isUnseparated = true)
    (hs : settings.hasFinitePadding = true) (hscreens : viewControllers d.site ≠ []) :
    ∃ files, (flatFiles settings now d.site).result = .ok files ∧
      IsNumbered settings now 1 (viewControllers d.site) files := by
  obtain ⟨files, hfiles⟩ := exists_flatFiles hs now (s := d.site) hd
  refine ⟨files, hfiles, ?_⟩
  have hcontrollers : flatScreens d.site = viewControllers d.site := by
    rw [flatScreens, if_neg (mt List.isEmpty_iff.mp hscreens)]
  simp only [flatFiles, Logged.bind_result_eq_ok, hcontrollers,
    if_neg (mt List.isEmpty_iff.mp hscreens)] at hfiles
  obtain ⟨_, _, hfiles⟩ := hfiles
  exact isNumbered_numberedFiles hfiles

end

/-- **Each screen has a file of its own.** Of two documents with view controllers, each is converted screen
by screen to files that are named by ascending numbers: the file of a number is that of the components of
the view controller of this number, and there is none exactly if it has no components. Where the view
controllers of one number are the same element, with all that is in it and all that its attributes fall
back to, the two documents have the same file of this number, or both have none. -/
theorem flat_by_screen (settings : Settings) (now : Binary64) (d d' : Document)
    (hs : settings.hasFinitePadding = true)
    (hd : d.root.isUnseparated = true) (hd' : d'.root.isUnseparated = true)
    (hscreens : viewControllers d.site ≠ []) (hscreens' : viewControllers d'.site ≠ []) :
    ∃ files files', (flatFiles settings now d.site).result = .ok files ∧
      (flatFiles settings now d'.site).result = .ok files' ∧
      IsNumbered settings now 1 (viewControllers d.site) files ∧
      IsNumbered settings now 1 (viewControllers d'.site) files' ∧
      ∀ (j : Nat) (s s' : Site), (viewControllers d.site)[j]? = some s →
        (viewControllers d'.site)[j]? = some s' → s.element = s'.element →
        files.filter (·.name == numberedName (1 + j)) =
          files'.filter (·.name == numberedName (1 + j)) := by
  obtain ⟨files, hfiles, hnumbered⟩ := exists_isNumbered now hd hs hscreens
  obtain ⟨files', hfiles', hnumbered'⟩ := exists_isNumbered now hd' hs hscreens'
  exact ⟨files, files', hfiles, hfiles', hnumbered, hnumbered', fun j s s' hj hj' h =>
    (hnumbered.shown j s hj).unique h (hnumbered'.shown j s' hj')⟩

/-- A document with three screens, the last of which has a label. -/
def threeScreens (first second : List Node) : Document :=
  ⟨plainTag "document" [], [plain "scenes" [] [plain "scene" [] [plain "objects" []
    [plain "viewController" [] first, plain "viewController" [] second,
      plain "viewController" [] [plain "label" [("text", "last")] []]]]]]⟩

/-- The first screen loses its label and the second gets one; the third keeps its file. -/
theorem flat_by_screen_edited : Settings.standard.hasFinitePadding = true ∧ ∃ files files',
    (flatFiles Settings.standard 42 (threeScreens [plain "label" [] []] []).site).result = .ok files ∧
    (flatFiles Settings.standard 42 (threeScreens [] [plain "switch" [] []]).site).result = .ok files' ∧
    files.map ViewFile.name = ["GeneratedView1", "GeneratedView3"] ∧
    files'.map ViewFile.name = ["GeneratedView2", "GeneratedView3"] ∧
    files.filter (·.name == numberedName 3) = files'.filter (·.name == numberedName 3) := by
  have hs : Settings.standard.hasFinitePadding = true := by decide +kernel
  obtain ⟨files, files', hfiles, hfiles', -, -, hsame⟩ := flat_by_screen Settings.standard 42
    (threeScreens [plain "label" [] []] []) (threeScreens [] [plain "switch" [] []]) hs
    (by decide +kernel) (by decide +kernel) (List.cons_ne_nil _ _) (List.cons_ne_nil _ _)
  have hnames : (flatFiles Settings.standard 42
      (threeScreens [plain "label" [] []] []).site).result.toOption.map (·.map ViewFile.name) =
        some ["GeneratedView1", "GeneratedView3"] := by decide +kernel
  have hnames' : (flatFiles Settings.standard 42
      (threeScreens [] [plain "switch" [] []]).site).result.toOption.map (·.map ViewFile.name) =
        some ["GeneratedView2", "GeneratedView3"] := by decide +kernel
  rw [hfiles] at hnames
  rw [hfiles'] at hnames'
  exact ⟨hs, files, files', hfiles, hfiles', Option.some.inj hnames, Option.some.inj hnames',
    hsame 2 _ _ rfl rfl rfl⟩

end Storyboard
