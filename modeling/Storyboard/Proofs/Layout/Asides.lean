import Storyboard.Proofs.Layout.Extracted
import Storyboard.Proofs.Layout.Screens
import Storyboard.Proofs.Markup.WithoutAsides
/-!
# Asides on a screen

What an element becomes is made of attributes, of elements in it, and for a text view also of its text.
Asides change none of the first two. The text is read from a child up to the first node that is no text,
so an aside in it cuts it short: the component of such a text view is another one without the aside, and
this is the only difference that asides make to the components of a screen.

* `IsWhole`: no aside cuts the text of a text view short.
* `component?_textView_iff`: exactly then its component does not depend on asides.
* `component?_withoutAsides`, `screenComponents_withoutAsides`: neither do other components, nor screens.
-/
namespace Storyboard.Layout

open Storyboard.Markup
open Storyboard.Number

/-! ## Parts of a component -/

section
variable (e : Element)

theorem frameOf_withoutAsides : frameOf e.withoutAsides = frameOf e := by
  unfold frameOf
  rw [Element.firstChildWith?_withoutAsides]
  cases e.firstChildWith? "rect" [("key", "frame")] <;> rfl

theorem constraintLines_withoutAsides : constraintLines e.withoutAsides = constraintLines e := by
  have hmodifiers : modifiers e.withoutAsides = modifiers e := by
    unfold modifiers
    rw [Element.firstChild?_withoutAsides]
    cases e.firstChild? "constraints" with
    | none => rfl
    | some container =>
      simp only [Option.map_some, Element.childrenNamed_withoutAsides, List.map_map]
      rfl
  rw [constraintLines, hmodifiers, constraintLines]

theorem placementOf_withoutAsides : placementOf e.withoutAsides = placementOf e := by
  rw [placementOf, frameOf_withoutAsides, constraintLines_withoutAsides]
  rfl

theorem buttonTitle_withoutAsides : buttonTitle e.withoutAsides = buttonTitle e := by
  simp only [buttonTitle, Element.firstChild?_withoutAsides, Element.firstChildWith?_withoutAsides,
    Option.bind_map]
  rfl

theorem pickerOptions_withoutAsides : pickerOptions e.withoutAsides = pickerOptions e := by
  unfold pickerOptions
  rw [Element.childrenNamed_withoutAsides, List.filterMap_map]
  rfl

theorem dateOf_withoutAsides (now : Binary64) : dateOf now e.withoutAsides = dateOf now e := by
  simp only [dateOf, Element.firstChildWith?_withoutAsides, Option.bind_map]
  rfl

/-- The text of a text view, where asides do not end it. -/
def wholeTextViewText : String :=
  firstPresent
    [e.attribute? "text",
      (e.firstChild? "text").bind Element.wholeText?,
      (e.firstChildWith? "string" [("key", "text")]).bind Element.wholeText?]
    ""

theorem textViewText_withoutAsides : textViewText e.withoutAsides = wholeTextViewText e := by
  simp only [textViewText, wholeTextViewText, Element.firstChild?_withoutAsides,
    Element.firstChildWith?_withoutAsides, Option.bind_map, Function.comp_def,
    Element.text?_withoutAsides]
  rfl

/-- If the element is a text view, does no aside cut its text short? -/
def IsWhole : Prop := e.name = "textView" → textViewText e = wholeTextViewText e

instance : Decidable (IsWhole e) :=
  inferInstanceAs (Decidable (e.name = "textView" → textViewText e = wholeTextViewText e))

end

/-- The control that an element is does not depend on asides, save for the text of a text view. -/
theorem rule_withoutAsides (now : Binary64) {e : Element} (hwhole : IsWhole e) {rule : Rule}
    (hrule : rule? e.name = some rule) : rule now e.withoutAsides = rule now e := by
  unfold rule? at hrule
  split at hrule <;> cases hrule
  case h_2 => simp only [buttonTitle_withoutAsides]
  case h_5 hname => simp only [textViewText_withoutAsides, hwhole hname]
  case h_8 => simp only [pickerOptions_withoutAsides]
  case h_9 => simp only [dateOf_withoutAsides]
  -- the other rules read nothing but attributes
  all_goals rfl

/-! ## Components -/

/-- What is no element has no part in what a stack takes in. -/
theorem membersIn_cons_of_not_element (now : Binary64) (here : Bool) {n : Node}
    (h : n.isElement = false) (ns : List Node) : membersIn now here (n :: ns) = membersIn now here ns := by
  cases n with
  | element => cases h
  | text | comment | instruction | reference =>
    cases here <;> simp [membersIn, membersBelow, componentOf]

theorem component?_eq (now : Binary64) (e : Element) : component? now e =
    if isStackName e.name then do
      let placement ← placementOf e
      return some (.stack (axisOf e) placement (← membersIn now false e.children))
    else
      match rule? e.name with
      | none => return none
      | some rule => do
        let placement ← placementOf e
        return some (.control (← rule now e) placement) := by
  unfold component? componentOf
  rfl

/-- If asides have no part in what a stack takes in, they have none in the component of an element. -/
theorem component?_withoutAsides_of_members (now : Binary64) {e : Element} (hwhole : IsWhole e)
    (hmembers : membersIn now false (nodesWithoutAsides e.children) = membersIn now false e.children) :
    component? now e.withoutAsides = component? now e := by
  have hinside : membersIn now false e.withoutAsides.children = membersIn now false e.children := hmembers
  rw [component?_eq, component?_eq, placementOf_withoutAsides, hinside, Element.name_withoutAsides]
  split
  · rfl
  · cases hrule : rule? e.name with
    | none => rfl
    | some rule => simp only [rule_withoutAsides now hwhole hrule]

-- the induction is on the nodes; an element needs it for its children, whether or not they list subviews
mutual

theorem membersIn_cons_withoutAsides (now : Binary64) (behind : List Node) :
    ∀ (n : Node) (here : Bool) (path : List Nat), (∀ s ∈ n.sites path, IsWhole s.element) →
      membersIn now here (n.withoutAsides behind) = membersIn now here (n :: behind)
  | .element tag children, here, path, h => by
    have hbelow : ∀ s ∈ sitesIn path 0 children, IsWhole s.element := fun s hs =>
      h s (List.mem_cons_of_mem _ hs)
    have hinside := fun b => membersIn_withoutAsides now children b path 0 hbelow
    have hown : componentOf now (.element tag (nodesWithoutAsides children)) =
        componentOf now (.element tag children) :=
      component?_withoutAsides_of_members now (e := ⟨tag, children⟩) (h _ List.mem_cons_self)
        (hinside false)
    simp only [Node.withoutAsides, membersIn, membersBelow, hown, hinside]
  | .text s, here, path, _ => by
    rw [Node.withoutAsides, apply_consText (f := membersIn now here) fun _ ns =>
      membersIn_cons_of_not_element now here rfl ns, membersIn_cons_of_not_element now here rfl]
  | .comment _, here, _, _ => (membersIn_cons_of_not_element now here rfl behind).symm
  | .instruction _ _, here, _, _ => (membersIn_cons_of_not_element now here rfl behind).symm
  | .reference _, _, _, _ => rfl

theorem membersIn_withoutAsides (now : Binary64) :
    ∀ (ns : List Node) (here : Bool) (path : List Nat) (i : Nat),
      (∀ s ∈ sitesIn path i ns, IsWhole s.element) →
      membersIn now here (nodesWithoutAsides ns) = membersIn now here ns
  | [], _, _, _, _ => rfl
  | n :: rest, here, path, i, h => by
    obtain ⟨hn, hrest⟩ := List.forall_mem_append.mp h
    rw [nodesWithoutAsides, membersIn_cons_withoutAsides now _ n here (path ++ [i]) hn, membersIn, membersIn,
      membersIn_withoutAsides now rest here path (n.next i) hrest]

end

/-- Asides have no part in the component of an element if they cut no text in it short. -/
theorem component?_withoutAsides (now : Binary64) {s : Site} (h : IsWhole s.element)
    (hbelow : ∀ t ∈ s.descendants, IsWhole t.element) :
    component? now s.element.withoutAsides = component? now s.element :=
  component?_withoutAsides_of_members now h
    (membersIn_withoutAsides now s.element.children false s.path 0 hbelow)

/-- The components of a screen do not depend on asides that cut no text short. -/
theorem screenComponents_withoutAsides (now : Binary64) (placeholder : String) {screen : Option Site}
    (h : ∀ s ∈ screen, ∀ t ∈ s.descendants, IsWhole t.element) :
    screenComponents now placeholder (screen.map Site.withoutAsides) =
      screenComponents now placeholder screen := by
  cases screen with
  | none => rfl
  | some s =>
    have hmapped : s.descendants.mapM (fun t => component? now t.element.withoutAsides) =
        s.descendants.mapM fun t => component? now t.element := by
      refine mapM_congr fun t ht => ?_
      have hbelow : ∀ u ∈ t.descendants, IsWhole u.element := fun u hu =>
        h s rfl u ((Site.descendants_sublist ht).subset hu)
      exact component?_withoutAsides now (h s rfl t ht) hbelow
    have hsites : s.withoutAsides.descendants.mapM (fun t => component? now t.element) =
        s.descendants.mapM fun t => component? now t.element := by
      rw [Site.descendants_withoutAsides, List.mapM_map, ← hmapped]
      rfl
    simp only [screenComponents, Option.map_some, Option.getD_some, hsites]

/-! ## Where asides count -/

/-- The component of a text view depends on asides exactly if they cut its text short. -/
theorem component?_textView_iff (now : Binary64) {e : Element} (hname : e.name = "textView")
    (h : e.isUnseparated = true) :
    component? now e.withoutAsides = component? now e ↔ IsWhole e := by
  obtain ⟨p, hp⟩ := exists_placement h
  have hcomponent : ∀ f : Element, f.name = "textView" → placementOf f = .ok p →
      component? now f = .ok (some (.control (.textView (textViewText f)) p)) := by
    intro f hf hplacement
    rw [component?_eq, hf, hplacement]
    rfl
  rw [hcomponent e hname hp, hcomponent e.withoutAsides hname ((placementOf_withoutAsides e).trans hp),
    textViewText_withoutAsides]
  simp [IsWhole, hname, eq_comm]

end Storyboard.Layout
