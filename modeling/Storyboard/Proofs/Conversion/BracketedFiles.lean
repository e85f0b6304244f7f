import Storyboard.Proofs.Conversion.Totality
import Storyboard.Proofs.Conversion.ViewNames
import Storyboard.Proofs.Markup.Readable.Document
import Storyboard.Proofs.Markup.Texts
import Storyboard.Proofs.Swift.Bracketing
/-!
# Generated files are bracketed

A document without brackets in its texts is converted to files whose brackets are matched and properly
nested. Names, titles and icons come from its texts or from fixed ones, and so do the texts and the
constraints of all components.

* `isBracketable_component`: the components of elements without brackets.
* `balanced_isBody`: the bodies of screens.
* `convert_bracketed`: every document that was read and has no brackets in its texts is converted to
  bracketed files.
-/
namespace Storyboard

open Storyboard.Layout
open Storyboard.Markup
open Storyboard.Navigation
open Storyboard.Number (Binary64)
open Storyboard.Swift
open Storyboard.Text

/-- The texts have no brackets. -/
def AreUnbracketed (texts : List String) : Prop := ∀ s ∈ texts, IsUnbracketed s

instance : DecidablePred AreUnbracketed := fun texts =>
  List.decidableBAll IsUnbracketed texts

theorem AreUnbracketed.subset {texts more : List String} (h : AreUnbracketed more)
    (hsub : texts ⊆ more) : AreUnbracketed texts := fun s hs => h s (hsub hs)

/-! ## Elements -/

theorem unbracketed_firstPresent {candidates : List (Option String)} {default : String}
    (hcandidates : ∀ text, some text ∈ candidates → IsUnbracketed text)
    (hdefault : IsUnbracketed default) : IsUnbracketed (firstPresent candidates default) := by
  unfold firstPresent
  cases hfirst : candidates.findSome? id with
  | none => exact hdefault
  | some text =>
    obtain ⟨before, candidate, after, hsplit, htext, -⟩ := List.findSome?_eq_some_iff.mp hfirst
    have hcandidate : candidate = some text := htext
    refine hcandidates text ?_
    rw [hsplit, ← hcandidate]
    simp

theorem balanced_modifier {edge constant : String} (hconstant : IsUnbracketed constant) :
    IsBalanced (brackets (modifier edge constant)) := by
  unfold modifier
  split
  · rename_i hedge
    have hplain : IsUnbracketed edge := by rcases hedge with rfl | rfl | rfl | rfl <;> decide
    simp only [brackets_append]
    rw [isUnbracketed_iff.mp hplain, isUnbracketed_iff.mp hconstant]
    decide
  · split
    · decide
    · split
      · decide
      · split
        · exact balanced_around (by decide) hconstant
        · split
          · exact balanced_around (by decide) hconstant
          · decide

section
variable {e : Element} (h : AreUnbracketed e.texts)
include h

theorem unbracketed_attribute (name : String) {default : String} (hdefault : IsUnbracketed default) :
    IsUnbracketed ((e.attribute? name).getD default) := by
  cases hvalue : e.attribute? name with
  | none => exact hdefault
  | some value => exact h value (attribute_mem_texts hvalue)

theorem unbracketed_elements {c : Element} (hc : c ∈ e.elements) : AreUnbracketed c.texts :=
  h.subset (texts_of_mem_elements hc)

theorem unbracketed_firstChild {c : Element} {name : String} (hc : e.firstChild? name = some c) :
    AreUnbracketed c.texts :=
  unbracketed_elements h (List.mem_of_mem_filter (List.mem_of_head? hc))

theorem unbracketed_firstChildWith {c : Element} {name : String} {wanted : List (String × String)}
    (hc : e.firstChildWith? name wanted = some c) : AreUnbracketed c.texts :=
  unbracketed_elements h (List.mem_of_mem_filter (List.mem_of_find?_eq_some hc))

theorem unbracketed_text {text : String} (ht : e.text? = some text) : IsUnbracketed text := by
  obtain ⟨parts, hparts, rfl⟩ := text_eq_join ht
  rw [isUnbracketed_iff, brackets_join, List.flatMap_eq_nil_iff]
  exact fun s hs => isUnbracketed_iff.mp (h s (hparts hs))

/-! ## Modifiers -/

theorem isBracketed_constraintLines : IsBracketed (constraintLines e) := by
  have hmodifiers : ∀ m ∈ modifiers e, IsBalanced (brackets m) := by
    intro m hm
    unfold modifiers at hm
    split at hm
    · cases hm
    · rename_i container hcontainer
      obtain ⟨constraint, hconstraint, rfl⟩ := List.mem_map.mp (List.mem_of_mem_filter hm)
      have hinside := unbracketed_elements (unbracketed_firstChild h hcontainer)
        (List.mem_of_mem_filter hconstraint)
      exact balanced_modifier (unbracketed_attribute hinside "constant" (by decide))
  rw [isBracketed_iff, constraintLines, brackets_intercalate (by decide)]
  exact isBalanced_flatMap hmodifiers

/-! ## Texts of controls -/

theorem unbracketed_buttonTitle : IsUnbracketed (buttonTitle e) := by
  refine unbracketed_firstPresent (fun text htext => ?_) (by decide)
  simp only [List.mem_cons, List.not_mem_nil, or_false] at htext
  rcases htext with htext | htext | htext
  · exact h text (attribute_mem_texts htext.symm)
  · obtain ⟨c, hc, htext⟩ := Option.bind_eq_some_iff.mp htext.symm
    exact unbracketed_firstChild h hc text (attribute_mem_texts htext)
  · obtain ⟨c, hc, htext⟩ := Option.bind_eq_some_iff.mp htext.symm
    exact unbracketed_firstChildWith h hc text (attribute_mem_texts htext)

theorem unbracketed_textViewText : IsUnbracketed (textViewText e) := by
  refine unbracketed_firstPresent (fun text htext => ?_) (by decide)
  simp only [List.mem_cons, List.not_mem_nil, or_false] at htext
  rcases htext with htext | htext | htext
  · exact h text (attribute_mem_texts htext.symm)
  · obtain ⟨c, hc, htext⟩ := Option.bind_eq_some_iff.mp htext.symm
    exact unbracketed_text (unbracketed_firstChild h hc) htext
  · obtain ⟨c, hc, htext⟩ := Option.bind_eq_some_iff.mp htext.symm
    exact unbracketed_text (unbracketed_firstChildWith h hc) htext

theorem unbracketed_pickerOptions : AreUnbracketed (pickerOptions e) := by
  unfold pickerOptions
  split
  · decide
  · intro option hoption
    obtain ⟨c, hc, htitle⟩ := List.mem_filterMap.mp hoption
    exact unbracketed_elements h (List.mem_of_mem_filter hc) option (attribute_mem_texts htitle)

/-- The texts that the control of an element quotes. -/
theorem unbracketed_control {now : Binary64} {name : String} {rule : Rule}
    (hrule : rule? name = some rule) {kind : Control} (hkind : rule now e = .ok kind) :
    AreUnbracketed (Control.texts kind) := by
  have hone : ∀ {s : String}, IsUnbracketed s → AreUnbracketed [s] := fun hs =>
    List.forall_mem_singleton.mpr hs
  have hnone : AreUnbracketed [] := by decide
  unfold rule? at hrule
  split at hrule <;> cases hrule
  case h_1 | h_3 | h_4 =>
    cases hkind
    exact hone (unbracketed_attribute h _ (by decide))
  case h_2 =>
    cases hkind
    have htitle := unbracketed_buttonTitle h
    exact List.forall_mem_cons.mpr
      ⟨isUnbracketed_append.mpr ⟨htitle, by decide⟩, hone htitle⟩
  case h_5 =>
    cases hkind
    exact hone (unbracketed_textViewText h)
  case h_6 | h_9 =>
    simp only [bind_eq_ok, pure_eq_ok] at hkind
    obtain ⟨_, -, rfl⟩ := hkind
    exact hnone
  case h_8 =>
    cases hkind
    exact unbracketed_pickerOptions h
  all_goals
    cases hkind
    exact hnone

theorem isBracketable_component {now : Binary64} {c : Component}
    (hc : component? now e = .ok (some c)) : IsBracketable c := by
  have hconstraints : ∀ p, placementOf e = .ok p → IsBracketed p.constraints := by
    intro p hp
    simp only [placementOf, bind_eq_ok, pure_eq_ok] at hp
    obtain ⟨frame, -, rfl⟩ := hp
    exact isBracketed_constraintLines h
  rcases component?_cases hc with
    ⟨-, p, children, hp, -, hself⟩ | ⟨-, rule, kind, p, hrule, hkind, hp, hself⟩ | ⟨-, hself⟩
  · cases hself
    exact ⟨by simp [ownTexts], hconstraints p hp⟩
  · cases hself
    exact ⟨unbracketed_control h hrule hkind, hconstraints p hp⟩
  · cases hself

end

/-! ## Screens -/

section
variable {settings : Settings} {now : Binary64}

/-- All that a screen draws, if its element has no brackets. -/
theorem isBracketable_drawn {placeholder : String} {screen : Option Site}
    (hscreen : ∀ s ∈ screen, AreUnbracketed s.element.texts) {cs : List Component}
    (hcs : screenComponents now placeholder screen = .ok cs) :
    ∀ n ∈ nodesIn (unowned cs), IsBracketable n := by
  cases screen with
  | none =>
    cases hcs
    simp [unowned, nodesIn, sorted]
  | some screen =>
    intro n hn
    have hsites : ∀ c ∈ unowned cs, ∃ s ∈ screen.descendants, component? now s.element = .ok (some c) :=
      fun c hc => ((mem_screenComponents hcs).mp (mem_unowned.mp hc).1).2
    obtain ⟨s, hs, hsn⟩ := site_of_mem_nodesIn hsites hn
    exact isBracketable_component
      ((hscreen screen rfl).subset (Site.texts_of_mem_descendants hs)) hsn

theorem balanced_isBody {screen : Option Site}
    (hscreen : ∀ s ∈ screen, AreUnbracketed s.element.texts) {body : String}
    (h : IsBody settings now screen body) : IsBalanced (brackets body) := by
  obtain ⟨cs, hcs, hbody⟩ := h
  exact balanced_body (isBracketable_drawn hscreen hcs) hbody

theorem bracketed_showsScreen {screen : Option Site}
    (hscreen : ∀ s ∈ screen, AreUnbracketed s.element.texts) {file : ViewFile}
    (hname : IsUnbracketed file.name) (h : ShowsScreen settings now screen file) :
    IsBracketed file.text := by
  obtain ⟨body, hbody, hfile⟩ := h
  rw [hfile]
  exact bracketed_screenFile hname (balanced_isBody hscreen hbody)

/-! ## Screen by screen -/

theorem bracketed_flatFile {name : String} (hname : IsUnbracketed name) {screen : Site}
    (hscreen : AreUnbracketed screen.element.texts) {files : List ViewFile}
    (h : (flatFile settings now name screen).result = .ok files) :
    ∀ file ∈ files, IsBracketed file.text := by
  rcases flatFile_result h with rfl | ⟨file, rfl, rfl, hfile⟩
  · simp
  · have hone : ∀ s ∈ some screen, AreUnbracketed s.element.texts := by simpa using hscreen
    exact List.forall_mem_singleton.mpr (bracketed_showsScreen hone hname hfile)

theorem bracketed_numberedFiles {i : Nat} {screens : List Site}
    (hscreens : ∀ s ∈ screens, AreUnbracketed s.element.texts) {files : List ViewFile}
    (h : (numberedFiles settings now i screens).result = .ok files) :
    ∀ file ∈ files, IsBracketed file.text := by
  induction screens generalizing i files with
  | nil =>
    simp only [numberedFiles, Logged.pure_result_eq_ok] at h
    subst h
    simp
  | cons screen rest ih =>
    simp only [numberedFiles, Logged.bind_result_eq_ok, Logged.pure_result_eq_ok] at h
    obtain ⟨here, hhere, below, hbelow, rfl⟩ := h
    obtain ⟨hscreen, hrest⟩ := List.forall_mem_cons.mp hscreens
    have hname : IsUnbracketed ("GeneratedView" ++ toString i) := isUnbracketed_append.mpr
      ⟨by decide, isUnbracketed_of_isWritten (Number.isWritten_toString_nat i)⟩
    exact List.forall_mem_append.mpr ⟨bracketed_flatFile hname hscreen hhere, ih hrest hbelow⟩

theorem bracketed_flatFiles {s : Site} (hs : AreUnbracketed s.element.texts) {files : List ViewFile}
    (h : (flatFiles settings now s).result = .ok files) : ∀ file ∈ files, IsBracketed file.text := by
  have hfollow : ∀ names, ∀ t ∈ s.follow names, AreUnbracketed t.element.texts := fun names t ht =>
    hs.subset (Site.texts_of_mem_follow ht)
  simp only [flatFiles, Logged.bind_result_eq_ok] at h
  obtain ⟨_, _, h⟩ := h
  split at h
  · split at h
    · simp only [Logged.pure_result_eq_ok] at h
      subst h
      simp
    · rename_i cell rest hcells
      have hcell := hfollow _ cell (hcells ▸ List.mem_cons_self)
      exact bracketed_flatFile (by decide) hcell h
  · refine bracketed_numberedFiles (fun t ht => ?_) h
    unfold flatScreens at ht
    split at ht
    · exact hfollow _ t ht
    · exact hfollow _ t ht

/-! ## Names -/

/-- Names chosen in turn for bases without brackets have none. -/
theorem unbracketed_unusedNames {used bases : List String} (hbases : AreUnbracketed bases) :
    AreUnbracketed (unusedNames used bases) := by
  intro x hx
  obtain ⟨base, hbase, n, rfl⟩ := exists_candidate_of_mem hx
  have hview : IsUnbracketed (base ++ "View") := isUnbracketed_append.mpr ⟨hbases base hbase, by decide⟩
  unfold nameCandidate
  split
  · exact hview
  · exact isUnbracketed_append.mpr
      ⟨hview, isUnbracketed_of_isWritten (Number.isWritten_toString_nat (n + 1))⟩

theorem eraseDupsBy_subset {α : Type} (same : α → α → Bool) (l : List α) : l.eraseDupsBy same ⊆ l := by
  induction hn : l.length using Nat.strongRecOn generalizing l with
  | ind n ih =>
    cases l with
    | nil => exact List.Subset.refl _
    | cons a rest =>
      have hlength := List.length_filter_le (fun b => decide (same b a = false)) rest
      rw [List.length_cons] at hn
      rw [List.eraseDupsBy_cons]
      have hrest := ih _ (by omega) (rest.filter fun b => decide (same b a = false)) rfl
      exact List.cons_subset_cons a (List.Subset.trans hrest List.filter_sublist.subset)

/-- What a navigation element answers when it is asked for an attribute is a text of its element. -/
theorem edge_attribute_mem_texts {kind : EdgeKind} {s : Site} {name value : String}
    (h : (Edge.ofSite kind s).attribute? name = some value) : value ∈ s.element.texts := by
  obtain ⟨before, after, hsplit, -⟩ := List.lookup_eq_some_iff.mp h
  have hmem : (name, value) ∈ (Edge.ofSite kind s).attributes := by
    rw [hsplit]
    simp
  exact attributes_mem_texts (eraseDupsBy_subset _ _ hmem)

section
variable {d : Document} (hd : AreUnbracketed d.root.texts)
include hd

/-! ## Flows -/

/-- The title of a screen of a flow has no brackets, and its element has none. -/
theorem unbracketed_flowScreen {f : Flow}
    (hf : flowOf? settings.flowSegueKinds (edgesOf d) = some f) {s : Screen}
    (hs : s ∈ f.root :: f.children) :
    IsUnbracketed s.storyboardId ∧ ∀ t ∈ s.site, AreUnbracketed t.element.texts := by
  have hsites := mem_sites_of_flow hf hs
  obtain ⟨e, he, rfl⟩ := viewController?_of_mem hf hs
  obtain ⟨kind, -, he⟩ := List.mem_flatMap.mp (List.mem_of_find?_eq_some he)
  obtain ⟨t, ht, rfl⟩ := List.mem_map.mp he
  have hsite : t ∈ d.sites := by
    unfold EdgeKind.sites at ht
    split at ht
    · exact List.mem_of_mem_filter ht
    · exact List.mem_of_mem_filter ht
  have htexts := hd.subset (Document.texts_of_mem_sites hsite)
  constructor
  · unfold Screen.ofEdge
    cases hvalue : (Edge.ofSite kind t).attribute? "storyboardIdentifier" with
    | none =>
      have hdefault : IsUnbracketed "Screen" := by decide
      exact hdefault
    | some value => exact htexts value (edge_attribute_mem_texts hvalue)
  · exact fun u hu => hd.subset (Document.texts_of_mem_sites (hsites u hu))

theorem bracketed_flowFiles {f : Flow} (hf : flowOf? settings.flowSegueKinds (edgesOf d) = some f)
    {files : List ViewFile} (h : (flowFiles settings now f).result = .ok files) :
    ∀ file ∈ files, IsBracketed file.text := by
  have hscreens : ∀ s ∈ f.root :: (distinctScreens [f.root.id] f.children).1,
      IsUnbracketed s.storyboardId := fun s hs =>
    (unbracketed_flowScreen hd hf ((mem_kept_iff hf).mp hs)).1
  have hnames : AreUnbracketed (files.map ViewFile.name) := by
    rw [flow_names h]
    exact unbracketed_unusedNames (List.forall_mem_map.mpr hscreens)
  obtain ⟨hroot, hkept⟩ := List.forall_mem_cons.mp hscreens
  have hfirst := (unbracketed_flowScreen hd hf (s := f.root) List.mem_cons_self).2
  obtain ⟨body, hbody, rfl⟩ := flowFiles_result h
  -- the screens that are linked, with the names of their views
  have hlinked : ∀ named ∈ linkedNames f,
      IsUnbracketed named.1.storyboardId ∧ IsUnbracketed named.2 := by
    intro named hnamed
    have hscreen : named.1 ∈ (linkedNames f).map Prod.fst := List.mem_map_of_mem hnamed
    rw [linkedNames, namedScreens_screens] at hscreen
    have hname : (flowChildFile named.2 named.1.storyboardId).name ∈ (flowRootFile
        (unusedName f.root.storyboardId []) f.root.storyboardId body (linksOf f) ::
        (linkedNames f).map fun p => flowChildFile p.2 p.1.storyboardId).map ViewFile.name :=
      List.mem_map_of_mem (List.mem_cons_of_mem _ (List.mem_map_of_mem hnamed))
    exact ⟨hkept _ hscreen, hnames _ hname⟩
  refine List.forall_mem_cons.mpr ⟨?_, List.forall_mem_map.mpr fun named hnamed => ?_⟩
  · refine bracketed_flowRootFile (hnames _ List.mem_cons_self) hroot
      (balanced_isBody hfirst hbody) fun link hlink => ?_
    obtain ⟨named, hnamed, rfl⟩ := List.mem_map.mp hlink
    exact hlinked named hnamed
  · obtain ⟨htitle, hname⟩ := hlinked named hnamed
    exact bracketed_flowChildFile hname htitle

/-! ## Tabs -/

/-- The element of the screen of a tab is one of the document. -/
theorem unbracketed_tabSite {entry : TabEntry} (hentry : entry ∈ tabEntriesOf d) :
    ∀ s ∈ entry.site, AreUnbracketed s.element.texts := by
  intro s hs
  exact hd.subset (Document.texts_of_mem_sites (mem_sites_of_tab hentry s hs))

theorem unbracketed_className {entry : TabEntry} (hentry : entry ∈ tabEntriesOf d) :
    IsUnbracketed entry.className := by
  have hsite := unbracketed_tabSite hd hentry
  obtain ⟨bar, -, hentry⟩ := List.mem_flatMap.mp hentry
  obtain ⟨segue, -, rfl⟩ := List.mem_map.mp hentry
  have hclass : (TabEntry.ofSegue d segue).className =
      ((TabEntry.ofSegue d segue).site.bind (·.attribute? "customClass")).getD "" := rfl
  have hempty : IsUnbracketed "" := by decide
  rw [hclass]
  cases hs : (TabEntry.ofSegue d segue).site with
  | none => exact hempty
  | some s => exact unbracketed_attribute (hsite s hs) "customClass" hempty

theorem unbracketed_tab (hicon : IsUnbracketed settings.defaultTabIcon) {entry : TabEntry}
    (hentry : entry ∈ tabEntriesOf d) (i : Nat) (view : String) :
    IsUnbracketed (tabOf settings i view entry).title ∧
      IsUnbracketed (tabOf settings i view entry).icon := by
  have hnumbered : IsUnbracketed ("tab " ++ toString i) := isUnbracketed_append.mpr
    ⟨by decide, isUnbracketed_of_isWritten (Number.isWritten_toString_nat i)⟩
  have hsite := unbracketed_tabSite hd hentry
  unfold tabOf
  cases hitem : entry.site.bind fun s => s.element.firstChild? "tabBarItem" with
  | none => exact ⟨hnumbered, hicon⟩
  | some item =>
    obtain ⟨s, hs, hchild⟩ := Option.bind_eq_some_iff.mp hitem
    have htexts := unbracketed_firstChild (hsite s hs) hchild
    exact ⟨unbracketed_attribute htexts "title" hnumbered,
      unbracketed_attribute htexts "image" hicon⟩

theorem bracketed_tabFiles (hicon : IsUnbracketed settings.defaultTabIcon) {files : List ViewFile}
    (h : (tabFiles settings now (tabEntriesOf d)).result = .ok files) :
    ∀ file ∈ files, IsBracketed file.text := by
  have hbases : AreUnbracketed
      (((tabEntriesOf d).zipIdx 1).map fun p => tabBase p.2 p.1) := by
    refine List.forall_mem_map.mpr fun p hp => ?_
    have hmem : p.1 ∈ ((tabEntriesOf d).zipIdx 1).map Prod.fst := List.mem_map_of_mem hp
    rw [List.zipIdx_map_fst] at hmem
    have hclass := unbracketed_className hd hmem
    unfold tabBase
    split
    · exact isUnbracketed_append.mpr
        ⟨by decide, isUnbracketed_of_isWritten (Number.isWritten_toString_nat p.2)⟩
    · exact hclass
  have hnames : AreUnbracketed (files.map ViewFile.name) := by
    rw [tab_names h]
    have hbar : AreUnbracketed [tabBarName] := by decide
    exact List.forall_mem_append.mpr ⟨unbracketed_unusedNames hbases, hbar⟩
  obtain ⟨screens, bar, tabs, rfl, -, ⟨htabs, hbar⟩, hviews, -, hscreens⟩ := (tabFiles_closed h).1
  rw [List.map_append] at hnames
  obtain ⟨hscreennames, hbarname⟩ := List.forall_mem_append.mp hnames
  refine List.forall_mem_append.mpr ⟨fun file hfile => ?_, List.forall_mem_singleton.mpr ?_⟩
  · obtain ⟨entry, hentry, hshows⟩ := exists_left_of_forall₂ hscreens hfile
    exact bracketed_showsScreen (unbracketed_tabSite hd hentry)
      (hscreennames _ (List.mem_map_of_mem hfile)) hshows
  · rw [hbar]
    refine bracketed_tabBarFile (hbarname _ (by simp)) fun tab htab => ?_
    have hview : tab.view ∈ screens.map ViewFile.name := by
      rw [← hviews]
      exact List.mem_map_of_mem htab
    obtain ⟨⟨entry, i⟩, hentry, htab⟩ := exists_left_of_forall₂ htabs htab
    have hmem : entry ∈ ((tabEntriesOf d).zipIdx 1).map Prod.fst := List.mem_map_of_mem hentry
    rw [List.zipIdx_map_fst] at hmem
    have hshown := unbracketed_tab hd hicon hmem i tab.view
    rw [← htab] at hshown
    exact ⟨hscreennames _ hview, hshown⟩

end

end

/-! ## Every conversion -/

/-- **Generated files are bracketed.** A document that was read and has no brackets in its attribute values
and texts is converted, in whichever mode, and in each of the files all round, square and curly brackets
are matched and properly nested. Of the settings only the icon of a tab that names none is written into a
file, so only this one must have no brackets; the bounds of the padding must be finite. -/
theorem convert_bracketed (settings : Settings) (hicon : IsUnbracketed settings.defaultTabIcon)
    (hs : settings.hasFinitePadding = true) (now : Binary64) (bytes : List UInt8) (d : Document)
    (hread : Document.ofBytes bytes = .ok d) (hd : AreUnbracketed d.root.texts) :
    ∃ files, (convert settings now d).result = .ok files ∧ ∀ file ∈ files, IsBracketed file.text := by
  obtain ⟨files, hconvert⟩ : ∃ files, (convert settings now d).result = .ok files :=
    exists_siteFiles now (isUnseparated_ofBytes hread) hs
  refine ⟨files, hconvert, ?_⟩
  rcases convert_cases hconvert with ⟨-, h⟩ | ⟨f, -, hf, h⟩ | ⟨-, h⟩
  · exact bracketed_tabFiles hd hicon h
  · exact bracketed_flowFiles hd hf h
  · exact bracketed_flatFiles (s := d.site) hd h

/-- A label in a stack in a view. -/
def stackedLabel : String :=
  "<d><objects><view><stackView><subviews><label/></subviews></stackView></view></objects></d>"

theorem convert_bracketed_stackedLabel : ∃ d files, Document.ofText stackedLabel = .ok d ∧
    AreUnbracketed d.root.texts ∧ IsUnbracketed Settings.standard.defaultTabIcon ∧
    Settings.standard.hasFinitePadding = true ∧
    (convert Settings.standard 42 d).result = .ok files ∧
    files.map ViewFile.name = ["GeneratedView1"] ∧ ∀ file ∈ files, IsBracketed file.text := by
  have hicon : IsUnbracketed Settings.standard.defaultTabIcon := by decide
  have hs : Settings.standard.hasFinitePadding = true := by decide +kernel
  have hread : (Document.ofText stackedLabel).toOption.bind (fun d =>
      if AreUnbracketed d.root.texts then
        (convert Settings.standard 42 d).result.toOption.map (·.map ViewFile.name)
      else none) = some ["GeneratedView1"] := by
    decide +kernel
  cases hd : Document.ofText stackedLabel with
  | error fault =>
    rw [hd] at hread
    cases hread
  | ok d =>
    rw [hd] at hread
    simp only [Except.toOption, Option.bind_some] at hread
    split at hread
    · rename_i htexts
      obtain ⟨files, hfiles, hbracketed⟩ := convert_bracketed Settings.standard hicon hs 42
        (utf8 (String.ofList (trim stackedLabel.toList))) d hd htexts
      simp only [hfiles, Option.map_some, Option.some.injEq] at hread
      exact ⟨d, files, rfl, htexts, hicon, hs, hfiles, hread, hbracketed⟩
    · cases hread

end Storyboard
