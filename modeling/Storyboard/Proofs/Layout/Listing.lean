import Storyboard.Proofs.Layout.Extracted
import Storyboard.Proofs.Layout.Numbers
import Storyboard.Proofs.Markup.Readable.Document
/-!
# A screen lists its elements by position

The components of a screen, each beside the element it comes from, are a listing: one for each element
below the screen that has a component and is no placeholder, in the order of their positions, and in
document order where positions are equal. Positions are defined, so this order is total, also where they
are infinite.

* `isPlaceholder_component`: a placeholder can be told from its element.
* `exists_paired`: the components of elements, each beside its own.
* `screen_listed`: the components of a screen of a document that was read.
-/
namespace Storyboard.Layout

open Storyboard.Markup
open Storyboard.Number

/-! ## Elements that are shown -/

/-- The names of the elements that have a component. -/
def componentNames : List String :=
  ["label", "button", "textField", "imageView", "textView", "slider", "switch", "pickerView",
    "datePicker", "tableView", "scrollView", "stackView"]

/-- Is the element a label of this text, no higher than 1? -/
def isPlaceholderLabel (text : String) (e : Element) : Bool :=
  e.name == "label" && (e.attribute? "text").getD "Label" == text &&
    match frameOf e with
    | .ok frame => frame.height.le 1
    | .error _ => false

/-- Does the element have a component that stays on the screen? -/
def isShown (placeholder : String) (e : Element) : Bool :=
  componentNames.contains e.name && !isPlaceholderLabel placeholder e

theorem isMapped_eq (e : Element) : isMapped e = componentNames.contains e.name := by
  unfold isMapped isStackName rule?
  split
  case h_12 hlabel hbutton hfield himage hview hslider hswitch hpicker hdate htable hscroll =>
    by_cases hstack : e.name = "stackView"
    · simp [hstack, componentNames]
    · simp_all [componentNames]
  -- the name of a control
  all_goals simp_all [componentNames]

/-- Only the rule for labels makes a label, of the element's own text. -/
theorem rule?_label {now : Binary64} {e : Element} {name : String} {rule : Rule}
    (hrule : rule? name = some rule) {kind : Control} (h : rule now e = .ok kind) (text : String) :
    kind = .label text ↔ name = "label" ∧ (e.attribute? "text").getD "Label" = text := by
  unfold rule? at hrule
  split at hrule <;> cases hrule
  case h_1 =>
    cases h
    simp
  case h_6 | h_9 =>
    simp only [bind_eq_ok, pure_eq_ok] at h
    obtain ⟨_, _, rfl⟩ := h
    simp
  -- the other rules read no number
  all_goals
    cases h
    simp

/-- Whether a component is a placeholder can be told from its element. -/
theorem isPlaceholder_component {now : Binary64} {e : Element} {c : Component}
    (h : component? now e = .ok (some c)) (text : String) :
    c.isPlaceholder text = isPlaceholderLabel text e := by
  rcases component?_cases h with
    ⟨hstack, p, children, -, -, hc⟩ | ⟨-, rule, kind, p, hrule, hkind, hp, hc⟩ | ⟨-, hc⟩
  · cases hc
    have hname : e.name = "stackView" := by simpa [isStackName] using hstack
    simp [Component.isPlaceholder, isPlaceholderLabel, hname]
  · cases hc
    have hlabel := rule?_label hrule hkind text
    simp only [isPlaceholderLabel, frameOf_of_placementOf hp]
    by_cases hkindlabel : kind = .label text
    · obtain ⟨hname, htext⟩ := hlabel.mp hkindlabel
      simp [Component.isPlaceholder, hkindlabel, hname, htext]
    · have hno : ¬(e.name = "label" ∧ (e.attribute? "text").getD "Label" = text) :=
        fun hyes => hkindlabel (hlabel.mpr hyes)
      have hleft : (Component.control kind p).isPlaceholder text = false := by
        cases kind with
        | label shown =>
          have hshown : shown ≠ text := fun heq => hkindlabel (by rw [heq])
          simp [Component.isPlaceholder, hshown]
        | _ => rfl
      have hright : (e.name == "label" && (e.attribute? "text").getD "Label" == text) = false := by
        simpa [Bool.and_eq_false_imp] using hno
      rw [hleft, hright, Bool.false_and]
  · cases hc

/-! ## Components beside their elements -/

/-- The components of elements, each beside its own. -/
theorem exists_paired {now : Binary64} {sites : List Site} {mapped : List (Option Component)}
    (h : List.Forall₂ (fun s c? => component? now s.element = .ok c?) sites mapped) :
    ∃ paired : List (Site × Component), paired.map Prod.snd = mapped.filterMap id ∧
      paired.map Prod.fst = sites.filter (isMapped ·.element) ∧
      ∀ p ∈ paired, component? now p.1.element = .ok (some p.2) := by
  induction h with
  | nil => exact ⟨[], rfl, rfl, by simp⟩
  | @cons s c? sites mapped hs _ ih =>
    obtain ⟨paired, hsnd, hfst, hpaired⟩ := ih
    have hm := component?_isSome hs
    cases c? with
    | none =>
      have hno : isMapped s.element = false := hm.symm
      exact ⟨paired, by simpa using hsnd, by simpa [hno] using hfst, hpaired⟩
    | some c =>
      have hyes : isMapped s.element = true := hm.symm
      refine ⟨(s, c) :: paired, by simpa using hsnd, by simpa [hyes] using hfst, ?_⟩
      exact List.forall_mem_cons.mpr ⟨hs, hpaired⟩

/-- Leaving out placeholders leaves out their elements. -/
theorem exists_paired_shown {now : Binary64} {sites : List Site} {mapped : List (Option Component)}
    (h : List.Forall₂ (fun s c? => component? now s.element = .ok c?) sites mapped)
    (placeholder : String) :
    ∃ paired : List (Site × Component),
      paired.map Prod.snd = (mapped.filterMap id).filter (fun c => !c.isPlaceholder placeholder) ∧
      paired.map Prod.fst = sites.filter (isShown placeholder ·.element) ∧
      ∀ p ∈ paired, component? now p.1.element = .ok (some p.2) := by
  obtain ⟨paired, hsnd, hfst, hpaired⟩ := exists_paired h
  refine ⟨paired.filter fun p => !p.2.isPlaceholder placeholder, ?_, ?_, ?_⟩
  · rw [← hsnd, List.filter_map]
    rfl
  · have hcongr : paired.filter (fun p => !p.2.isPlaceholder placeholder) =
        paired.filter ((fun s : Site => !isPlaceholderLabel placeholder s.element) ∘ Prod.fst) :=
      List.filter_congr fun p hp => by
        rw [isPlaceholder_component (hpaired p hp)]
        rfl
    rw [hcongr, ← List.filter_map, hfst, List.filter_filter]
    refine List.filter_congr fun s _ => ?_
    rw [isShown, isMapped_eq, Bool.and_comm]
  · exact fun p hp => hpaired p (List.mem_of_mem_filter hp)

/-! ## Listings -/

/-- Are these the components of a screen, each beside its element, as the screen has to list them? -/
structure IsListing (now : Binary64) (placeholder : String) (screen : Site)
    (listed : List (Site × Component)) : Prop where
  /-- There is one for each element below that is to be listed, and no other. -/
  elements : (listed.map Prod.fst).Perm (screen.descendants.filter (isShown placeholder ·.element))
  /-- None is there twice. -/
  once : (listed.map fun p => p.1.path).Nodup
  components : ∀ p ∈ listed, component? now p.1.element = .ok (some p.2)
  ascending : listed.Pairwise fun p q => p.2.position.le q.2.position = true
  /-- What is at one position stands in document order. -/
  stable : listed.Pairwise fun p q => q.2.position.le p.2.position = true → p.1.path < q.1.path

/-- Can any two of the numbers be compared, and does the comparison carry over from one to the next? -/
structure IsPreordered (xs : List Binary64) : Prop where
  total : ∀ x ∈ xs, ∀ y ∈ xs, x.le y = true ∨ y.le x = true
  trans : ∀ x ∈ xs, ∀ y ∈ xs, ∀ z ∈ xs, x.le y = true → y.le z = true → x.le z = true

theorem isPreordered_of_defined {xs : List Binary64} (h : AreDefined xs) : IsPreordered xs where
  total x hx y hy := Binary64.le_total (h x hx) (h y hy)
  trans x hx y hy z hz := Binary64.le_trans (h x hx) (h y hy) (h z hz)

/-- What sorting by position makes of components beside their elements. -/
theorem isListing_sorted {now : Binary64} {placeholder : String} {screen : Site}
    {paired : List (Site × Component)}
    (hfst : paired.map Prod.fst = screen.descendants.filter (isShown placeholder ·.element))
    (hpaired : ∀ p ∈ paired, component? now p.1.element = .ok (some p.2)) :
    IsListing now placeholder screen
      (sorted (fun p q => p.2.position.lt q.2.position) paired) := by
  have hperm := sorted_perm (fun p q : Site × Component => p.2.position.lt q.2.position) paired
  have hdefined : ∀ p ∈ paired, p.2.position.isDefined = true := fun p hp =>
    isDefined_position (hpaired p hp)
  have hordered : paired.Pairwise fun p q => p.1.path < q.1.path := by
    have hsites : (paired.map Prod.fst).Pairwise fun s t : Site => s.path < t.path := by
      rw [hfst]
      exact screen.descendants_ordered.filter _
    rwa [List.pairwise_map] at hsites
  have hweak : IsWeak (fun p : Site × Component => p.2.position.isDefined = true)
      (fun p q => p.2.position.lt q.2.position) :=
    ⟨fun _ _ h => Binary64.lt_asymm h, fun _ _ _ hb h h' => Binary64.lt_eq_false_trans hb h h'⟩
  have hsettled := sorted_settled hweak hordered hdefined
  -- among defined positions, not before means at most
  have hle : (sorted (fun p q : Site × Component => p.2.position.lt q.2.position) paired).Pairwise
      fun p q => p.2.position.le q.2.position = true ∧
        (q.2.position.le p.2.position = true → p.1.path < q.1.path) := by
    refine hsettled.imp_of_mem fun {p q} hp hq ⟨hnot, hcame⟩ => ?_
    have hdp := hdefined p (hperm.mem_iff.mp hp)
    have hdq := hdefined q (hperm.mem_iff.mp hq)
    rw [Binary64.le_iff hdp hdq, Binary64.le_iff hdq hdp]
    exact ⟨hnot, hcame⟩
  refine ⟨?_, ?_, ?_, hle.imp And.left, hle.imp And.right⟩
  · rw [← hfst]
    exact hperm.map Prod.fst
  · rw [(hperm.map _).nodup_iff]
    refine List.pairwise_map.mpr (hordered.imp fun {p q} h he => ?_)
    rw [he] at h
    exact List.lt_irrefl _ h
  · exact fun p hp => hpaired p (hperm.mem_iff.mp hp)

/-- **A screen lists its elements by position.** For each element of a document that was read, and each
placeholder, the components of the screen exist and are a listing of the elements below it, their
positions can all be compared, and none of the numbers drawn is undefined, unless the clock is. -/
theorem screen_listed (bytes : List UInt8) (d : Document) (hd : Document.ofBytes bytes = .ok d)
    (now : Binary64) (placeholder : String) (screen : Site) (hs : screen ∈ d.sites) :
    ∃ listed : List (Site × Component),
      screenComponents now placeholder (some screen) = .ok (listed.map Prod.snd) ∧
      IsListing now placeholder screen listed ∧
      IsPreordered (listed.map fun p => p.2.position) ∧
      (now ≠ .undefined →
        ∀ c ∈ nodesIn (listed.map Prod.snd), ∀ x ∈ c.numbers, x ≠ .undefined) := by
  have hunseparated : ∀ s ∈ screen.descendants, s.element.isUnseparated = true :=
    screen.isUnseparated_descendants
      (Document.isUnseparated_sites (isUnseparated_ofBytes hd) screen hs)
  obtain ⟨mapped, hmapped, -⟩ := exists_mapM fun s hs => exists_component? now (hunseparated s hs)
  obtain ⟨paired, hsnd, hfst, hpaired⟩ := exists_paired_shown (mapM_eq_ok.mp hmapped) placeholder
  have hlisting := isListing_sorted hfst hpaired
  have hcomponents : screenComponents now placeholder (some screen) =
      .ok ((sorted (fun p q => p.2.position.lt q.2.position) paired).map Prod.snd) := by
    rw [← sorted_map Prod.snd fun a b : Component => a.position.lt b.position, hsnd]
    simp only [screenComponents, Option.map_some, Option.getD_some, hmapped]
    rfl
  refine ⟨_, hcomponents, hlisting, isPreordered_of_defined ?_, fun hnow c hc x hx => ?_⟩
  · intro x hx
    obtain ⟨p, hp, rfl⟩ := List.mem_map.mp hx
    exact isDefined_position (hlisting.components p hp)
  · have hsites : ∀ c ∈ (sorted (fun p q => p.2.position.lt q.2.position) paired).map Prod.snd,
        ∃ s ∈ screen.descendants, component? now s.element = .ok (some c) := fun c hc =>
      ((mem_screenComponents hcomponents).mp hc).2
    have hdefined := areDefined_nodes (Binary64.isDefined_iff.mpr hnow) hsites c hc x hx
    exact Binary64.isDefined_iff.mp hdefined

/-- A label beyond all finite positions, in front of one that states no position. -/
def farLabel : String := "<view><label id='a'><rect key='frame' y='1e400'/></label><label id='b'/></view>"

theorem screen_listed_farLabel : ∃ d listed, Document.ofText farLabel = .ok d ∧
    screenComponents 42 "Welcome" (some d.site) = .ok (listed.map Prod.snd) ∧
    listed.map (fun p => p.2.id) = ["b", "a"] ∧ IsListing 42 "Welcome" d.site listed ∧
    IsPreordered (listed.map fun p => p.2.position) ∧
    ∀ c ∈ nodesIn (listed.map Prod.snd), ∀ x ∈ c.numbers, x ≠ .undefined := by
  have hread : (Document.ofText farLabel).toOption.bind (fun d =>
      (screenComponents 42 "Welcome" (some d.site)).toOption.map (·.map Component.id)) =
        some ["b", "a"] := by
    decide +kernel
  cases hd : Document.ofText farLabel with
  | error fault =>
    rw [hd] at hread
    cases hread
  | ok d =>
    obtain ⟨listed, hcs, hlisting, hpreordered, hdefined⟩ := screen_listed
      (Text.utf8 (String.ofList (Text.trim farLabel.toList))) d hd 42 "Welcome" d.site
      List.mem_cons_self
    rw [hd] at hread
    simp only [Except.toOption, Option.bind_some, hcs, Option.map_some, Option.some.injEq,
      List.map_map] at hread
    exact ⟨d, listed, rfl, hcs, hread, hlisting, hpreordered, hdefined nofun⟩

end Storyboard.Layout
