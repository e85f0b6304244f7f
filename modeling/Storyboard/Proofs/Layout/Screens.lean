import Storyboard.Layout.Extraction
import Storyboard.Proofs.Markup.Below
import Storyboard.Proofs.Outcome
import Storyboard.Proofs.Sorting
/-!
# The components of a screen

Which component an element becomes, said apart from how it is computed: an element is mapped exactly
if its name is that of a control or a stack, and a stack holds one component for each mapped element
below it that is under a list of subviews. A screen has one component for each mapped element below
it that is no placeholder.

* `component?_isSome`: which elements have a component.
* `membersIn_eq`: the components under lists of subviews are those of the elements found there.
* `component?_stack`: what a stack holds.
* `mem_screenComponents`: what a screen holds.
-/
namespace Storyboard.Layout

open Storyboard.Markup
open Storyboard.Number

/-- Does the element become a component? -/
def isMapped (e : Element) : Bool := isStackName e.name || (rule? e.name).isSome

/-- The id that the component of an element has, empty if the element has none. -/
def elementId (e : Element) : String := (e.attribute? "id").getD ""

/-- The name of the elements that list the subviews of a stack. -/
def subviews : String := "subviews"

/-- The elements that a stack takes in. -/
def members (s : Site) : List Site := s.descendantsUnder subviews

theorem members_sublist (s : Site) : (members s).Sublist s.descendants :=
  s.descendantsUnder_sublist subviews

/-- A member of a stack below a screen is below the screen too. -/
theorem mem_descendants_of_members {screen s m : Site} (hs : s ∈ screen.descendants)
    (hm : m ∈ members s) : m ∈ screen.descendants :=
  (Site.descendants_sublist hs).subset ((members_sublist s).subset hm)

/-! ## One element -/

theorem isMapped_of_stack {s : Site} (h : isStackName s.name = true) : isMapped s.element = true := by
  unfold isMapped
  rw [show isStackName s.element.name = true from h, Bool.true_or]

theorem placementOf_id {e : Element} {p : Placement} (h : placementOf e = .ok p) :
    p.id = elementId e := by
  simp only [placementOf, bind_eq_ok, pure_eq_ok] at h
  obtain ⟨_, _, rfl⟩ := h
  rfl

/-- The three outcomes for an element: a stack, a control, or nothing. -/
theorem component?_cases {now : Binary64} {e : Element} {c? : Option Component}
    (h : component? now e = .ok c?) :
    (isStackName e.name = true ∧ ∃ p children, placementOf e = .ok p ∧
      membersIn now false e.children = .ok children ∧ c? = some (.stack (axisOf e) p children)) ∨
    (isStackName e.name = false ∧ ∃ rule kind p, rule? e.name = some rule ∧ rule now e = .ok kind ∧
      placementOf e = .ok p ∧ c? = some (.control kind p)) ∨
    (isMapped e = false ∧ c? = none) := by
  simp only [component?, componentOf] at h
  split at h
  · rename_i hstack
    simp only [bind_eq_ok, pure_eq_ok] at h
    obtain ⟨p, hp, children, hchildren, rfl⟩ := h
    exact .inl ⟨hstack, p, children, hp, hchildren, rfl⟩
  · rename_i hstack
    rw [Bool.not_eq_true] at hstack
    split at h
    · rename_i hrule
      rw [pure_eq_ok] at h
      exact .inr (.inr ⟨by simp [isMapped, hstack, hrule], h.symm⟩)
    · rename_i rule hrule
      simp only [bind_eq_ok, pure_eq_ok] at h
      obtain ⟨p, hp, kind, hkind, rfl⟩ := h
      exact .inr (.inl ⟨hstack, rule, kind, p, hrule, hkind, hp, rfl⟩)

theorem component?_isSome {now : Binary64} {e : Element} {c? : Option Component}
    (h : component? now e = .ok c?) : c?.isSome = isMapped e := by
  rcases component?_cases h with
    ⟨hs, p, children, -, -, rfl⟩ | ⟨-, rule, kind, p, hr, -, -, rfl⟩ | ⟨hm, rfl⟩
  · simp [isMapped, hs]
  · simp [isMapped, hr]
  · simp [hm]

theorem component?_id {now : Binary64} {e : Element} {c : Component}
    (h : component? now e = .ok (some c)) : c.id = elementId e := by
  rcases component?_cases h with
    ⟨-, p, children, hp, -, hc⟩ | ⟨-, rule, kind, p, -, -, hp, hc⟩ | ⟨-, hc⟩ <;>
    cases hc <;> exact placementOf_id hp

/-! ## Members of a stack -/

theorem filterMap_self_cons {α : Type} (a : Option α) (l : List (Option α)) :
    (a :: l).filterMap (fun x => x) = a.toList ++ l.filterMap fun x => x := by
  cases a <;> rfl

mutual

theorem membersBelow_eq (now : Binary64) : ∀ (n : Node) (path : List Nat),
    membersBelow now n = List.filterMap id <$>
      (n.sitesUnder subviews false path).mapM fun s => component? now s.element
  | .element tag children, path => by
    simp only [membersBelow, Node.sitesUnder, Bool.false_eq_true, if_false, List.nil_append]
    exact membersIn_eq now children _ path 0
  | .text _, _ => by simp [membersBelow, Node.sitesUnder]
  | .comment _, _ => by simp [membersBelow, Node.sitesUnder]
  | .instruction _ _, _ => by simp [membersBelow, Node.sitesUnder]
  | .reference _, _ => by simp [membersBelow, Node.sitesUnder]

/-- The components under lists of subviews are those of the elements there, in document order. -/
theorem membersIn_eq (now : Binary64) : ∀ (ns : List Node) (here : Bool) (path : List Nat) (i : Nat),
    membersIn now here ns = List.filterMap id <$>
      (sitesUnderIn subviews here path i ns).mapM fun s => component? now s.element
  | [], _, _, _ => by simp [membersIn, sitesUnderIn]
  | n :: rest, here, path, i => by
    rw [sitesUnderIn, List.mapM_append, membersIn, membersIn_eq now rest here path (n.next i)]
    cases here with
    | false =>
      rw [membersBelow_eq now n (path ++ [i])]
      simp
    | true =>
      rw [Node.sitesUnder_true, List.mapM_append, membersBelow_eq now n (path ++ [i])]
      cases n with
      | element tag children => simp [Node.element?, component?, filterMap_self_cons]
      | _ => simp [Node.element?, componentOf]

end

/-- The component of a stack holds one component for each mapped member, in document order. -/
theorem component?_stack {now : Binary64} {s : Site} {axis : Axis} {p : Placement}
    {children : List Component} (h : component? now s.element = .ok (some (.stack axis p children))) :
    isStackName s.element.name = true ∧ axis = axisOf s.element ∧
      ∃ mapped, List.Forall₂ (fun t c? => component? now t.element = .ok c?) (members s) mapped ∧
        children = mapped.filterMap id := by
  rcases component?_cases h with ⟨hs, q, cs, -, hcs, hc⟩ | ⟨-, rule, kind, q, -, -, -, hc⟩ | ⟨-, hc⟩
  · cases hc
    rw [membersIn_eq now s.element.children false s.path 0, map_eq_ok] at hcs
    obtain ⟨mapped, hmapped, rfl⟩ := hcs
    exact ⟨hs, rfl, mapped, mapM_eq_ok.mp hmapped, rfl⟩
  · cases hc
  · cases hc

/-! ## Screens -/

/-- The components of a screen are those of the elements below it, less the placeholders. -/
theorem screenComponents_perm {now : Binary64} {placeholder : String} {screen : Site}
    {cs : List Component} (h : screenComponents now placeholder (some screen) = .ok cs) :
    ∃ mapped, List.Forall₂ (fun s c? => component? now s.element = .ok c?) screen.descendants mapped ∧
      cs.Perm ((mapped.filterMap id).filter fun c => !c.isPlaceholder placeholder) := by
  simp only [screenComponents, bind_eq_ok, pure_eq_ok, Option.map_some, Option.getD_some,
    mapM_eq_ok] at h
  obtain ⟨mapped, hmapped, rfl⟩ := h
  exact ⟨mapped, hmapped, sorted_perm _ _⟩

/-- A result that is there is that of an element. -/
theorem mem_filterMap_results {now : Binary64} {sites : List Site} {mapped : List (Option Component)}
    (h : List.Forall₂ (fun s c? => component? now s.element = .ok c?) sites mapped) {c : Component} :
    c ∈ mapped.filterMap id ↔ ∃ s ∈ sites, component? now s.element = .ok (some c) := by
  induction h with
  | nil => simp
  | cons hs _ ih =>
    simp only [id, filterMap_self_cons, List.mem_append, Option.mem_toList, List.mem_cons,
      exists_eq_or_imp, hs, Except.ok.injEq] at ih ⊢
    rw [ih]

theorem mem_screenComponents {now : Binary64} {placeholder : String} {screen : Site}
    {cs : List Component} (h : screenComponents now placeholder (some screen) = .ok cs)
    {c : Component} : c ∈ cs ↔ c.isPlaceholder placeholder = false ∧
      ∃ s ∈ screen.descendants, component? now s.element = .ok (some c) := by
  obtain ⟨mapped, hmapped, hperm⟩ := screenComponents_perm h
  rw [hperm.mem_iff, List.mem_filter, mem_filterMap_results hmapped, and_comm]
  simp

/-- The ids of the results, in order, are those of the mapped elements. -/
theorem map_id_results {now : Binary64} {sites : List Site} {mapped : List (Option Component)}
    (h : List.Forall₂ (fun s c? => component? now s.element = .ok c?) sites mapped) :
    (mapped.filterMap id).map Component.id =
      (sites.filter (isMapped ·.element)).map (elementId ·.element) := by
  induction h with
  | nil => rfl
  | @cons s c? _ _ hs _ ih =>
    have hm := component?_isSome hs
    cases c? with
    | none => simpa [← hm] using ih
    | some c => simpa [← hm, component?_id hs] using ih

end Storyboard.Layout
