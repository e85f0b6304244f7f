import Storyboard.Proofs.Conversion.ClosedFiles
import Storyboard.Proofs.Swift.Payloads
/-!
# The texts that files quote

A file quotes texts of the document: those of the controls in its screen, the titles of a flow's
screens, the titles and icons of tabs. None is escaped, so a literal stands for its text exactly if the
text has nothing to escape. That holds at every depth of a screen, in its order, and does not depend on
the other texts.

* `CarriesScreen`, `CarriesFlow`, `CarriesTabs`: which texts the literals of the files carry.
* `literals_carry_texts`: they do, for every screen, flow and tab bar.
-/
namespace Storyboard

open Storyboard.Layout
open Storyboard.Markup
open Storyboard.Navigation
open Storyboard.Number (Binary64)
open Storyboard.Swift

/-- The literals of a screen's file carry the texts of its column, in order. -/
def CarriesScreen (settings : Settings) (cs : List Component) (file : ViewFile) : Prop :=
  ∃ body, bodySegments settings cs = .ok body ∧
    Emits file (fileSegments file.name (screenSegments body)) ((textsIn (unowned cs)).map .body)

/-- The literals of the first file of a flow carry the texts of its screen, the titles of the other
screens and its own; those of each other file carry its own title twice. -/
def CarriesFlow (settings : Settings) (now : Binary64) (f : Flow) (files : List ViewFile) : Prop :=
  ∃ root children links cs body,
    files = root :: children ∧
    screenComponents now settings.placeholderText f.root.site = .ok cs ∧
    bodySegments settings cs = .ok body ∧
    Emits root (fileSegments root.name (flowRootSegments f.root.storyboardId body links))
      ((textsIn (unowned cs)).map .body ++
        (((distinctScreens [f.root.id] f.children).1.map Screen.storyboardId) ++
          [f.root.storyboardId]).map .template) ∧
    List.Forall₂ (fun s file =>
        Emits file (fileSegments file.name (flowChildSegments s.storyboardId))
          (["current view is " ++ s.storyboardId, s.storyboardId].map .template))
      (distinctScreens [f.root.id] f.children).1 children

/-- The literals of the tab bar carry the titles and icons of the tabs, and those of each other file the
texts of its screen. -/
def CarriesTabs (settings : Settings) (now : Binary64) (entries : List TabEntry)
    (files : List ViewFile) : Prop :=
  ∃ screens bar tabs,
    files = screens ++ [bar] ∧
    List.Forall₂ (fun (entry, i) tab => tab = tabOf settings i tab.view entry) (entries.zipIdx 1) tabs ∧
    Emits bar (fileSegments bar.name (tabBarSegments tabs))
      ((tabs.flatMap fun tab => [tab.title, tab.icon]).map .template) ∧
    List.Forall₂ (fun entry file =>
        ∃ cs, screenComponents now settings.placeholderText entry.site = .ok cs ∧
          CarriesScreen settings cs file)
      entries screens

variable {settings : Settings} {now : Binary64}

/-- A body that is written is written in segments. -/
theorem exists_bodySegments {cs : List Component} {body : String}
    (h : screenBody settings cs = .ok body) :
    ∃ ss, bodySegments settings cs = .ok ss ∧ textOf ss = body := by
  rw [screenBody_eq, map_eq_ok] at h
  exact h

theorem carriesScreen_of_body {cs : List Component} {name body : String}
    (h : screenBody settings cs = .ok body) : CarriesScreen settings cs (screenFile name body) := by
  obtain ⟨ss, hss, rfl⟩ := exists_bodySegments h
  exact ⟨ss, hss, emits_screen name hss⟩

theorem carriesFlow_of_result {f : Flow} {files : List ViewFile}
    (h : (flowFiles settings now f).result = .ok files) : CarriesFlow settings now f files := by
  obtain ⟨body, ⟨cs, hcs, hbody⟩, rfl⟩ := flowFiles_result h
  obtain ⟨ss, hss, rfl⟩ := exists_bodySegments hbody
  have hscreens : (linkedNames f).map Prod.fst = (distinctScreens [f.root.id] f.children).1 :=
    namedScreens_screens _ _
  have htitles : (distinctScreens [f.root.id] f.children).1.map Screen.storyboardId =
      (linksOf f).map Link.title := by
    rw [← hscreens, linksOf, List.map_map, List.map_map]
    rfl
  refine ⟨_, _, linksOf f, cs, ss, rfl, hcs, hss, ?_, ?_⟩
  · rw [htitles]
    exact emits_flowRoot _ _ _ hss
  · rw [← hscreens, List.forall₂_map_left_iff, List.forall₂_map_right_iff]
    exact List.forall₂_same.mpr fun _ _ => emits_flowChild _ _

theorem carriesTabs_of_result {entries : List TabEntry} {files : List ViewFile}
    (h : (tabFiles settings now entries).result = .ok files) :
    CarriesTabs settings now entries files := by
  obtain ⟨screens, bar, tabs, rfl, -, ⟨htabs, hbar⟩, -, -, hscreens⟩ := (tabFiles_closed h).1
  refine ⟨screens, bar, tabs, rfl, htabs, ?_, hscreens.imp fun entry file hfile => ?_⟩
  · rw [hbar]
    exact emits_tabBar _ _
  · obtain ⟨body, ⟨cs, hcs, hbody⟩, hfile⟩ := hfile
    rw [hfile]
    exact ⟨cs, hcs, carriesScreen_of_body hbody⟩

/-- **A literal stands for its text exactly if the text needs no escape.** Whatever the components of a
screen, the flow or the tabs, the literals of the files that are written carry their texts in order: each
is well formed and has its text for a value if and only if the text survives. -/
theorem literals_carry_texts (settings : Settings) (now : Binary64) :
    (∀ name cs file, (viewFile settings name cs).result = .ok file → CarriesScreen settings cs file) ∧
    (∀ f files, (flowFiles settings now f).result = .ok files → CarriesFlow settings now f files) ∧
    ∀ entries files, (tabFiles settings now entries).result = .ok files →
      CarriesTabs settings now entries files := by
  refine ⟨fun name cs file h => ?_, fun f files h => carriesFlow_of_result h,
    fun entries files h => carriesTabs_of_result h⟩
  obtain ⟨body, hbody, rfl⟩ := viewFile_result h
  exact carriesScreen_of_body hbody

/-- Labels in a row. -/
def labels (texts : List String) : List Component :=
  [.stack .horizontal ⟨.standard, "", ""⟩
    (texts.map fun text => .control (.label text) ⟨.standard, "", ""⟩)]

/-- A screen, a flow of two screens and a tab bar of one tab. -/
theorem literals_carry_texts_small :
    (∃ file, (viewFile Settings.standard "HelloView" (labels ["Hello"])).result = .ok file ∧
      CarriesScreen Settings.standard (labels ["Hello"]) file) ∧
    (∃ files, (flowFiles Settings.standard 42 ⟨⟨"a", "Home", none⟩, [⟨"b", "Detail", none⟩]⟩).result =
        .ok files ∧
      CarriesFlow Settings.standard 42 ⟨⟨"a", "Home", none⟩, [⟨"b", "Detail", none⟩]⟩ files) ∧
    ∃ files, (tabFiles Settings.standard 42 [⟨"a", "s", "Home", none⟩]).result = .ok files ∧
      CarriesTabs Settings.standard 42 [⟨"a", "s", "Home", none⟩] files := by
  obtain ⟨hscreen, hflow, htabs⟩ := literals_carry_texts Settings.standard 42
  exact ⟨⟨_, rfl, hscreen _ _ _ rfl⟩, ⟨_, rfl, hflow _ _ rfl⟩, ⟨_, rfl, htabs _ _ rfl⟩⟩

/-- A double quote and a line break end the literal too early, and a backslash changes its value. -/
theorem labels_not_carried : ∃ file body,
    (viewFile Settings.standard "V" (labels ["say \"hi\"", "a\\tb", "a\nb"])).result = .ok file ∧
    bodySegments Settings.standard (labels ["say \"hi\"", "a\\tb", "a\nb"]) = .ok body ∧
    textOf (fileSegments "V" (screenSegments body)) = file.text ∧
    (bodiesOf (fileSegments "V" (screenSegments body))).map literalValue =
      [none, some ['a', '\t', 'b'], none] := by
  obtain ⟨body, hbody, hvalues⟩ : ∃ body,
      bodySegments Settings.standard (labels ["say \"hi\"", "a\\tb", "a\nb"]) = .ok body ∧
      (bodiesOf (fileSegments "V" (screenSegments body))).map literalValue =
        [none, some ['a', '\t', 'b'], none] := ⟨_, rfl, by decide +kernel⟩
  refine ⟨screenFile "V" (textOf body), body, ?_, hbody, (emits_screen "V" hbody).1, hvalues⟩
  simp only [viewFile, Logged.bind_result_eq_ok, Logged.pure_result_eq_ok, Logged.lift_result]
  exact ⟨textOf body, by rw [screenBody_eq, hbody]; rfl, rfl⟩

end Storyboard
