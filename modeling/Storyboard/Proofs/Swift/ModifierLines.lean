import Storyboard.Proofs.Layout.Listing
import Storyboard.Proofs.Markup.Plain
import Storyboard.Proofs.Swift.Printing
/-!
# Modifiers keep their lines

What the constraints of an element become is handed over as the lines of one text. The text is cut again
where a line ends, its blank lines are left out, and the rest is indented and joined behind the view. If
no constant breaks a line, all the modifiers come out of this as they went in, whatever the view is.

* `mappedConstraints`, `modifiers_eq`: the constraints that become modifiers.
* `inkedLines_constraintLines`: cutting the text gives the modifiers back.
* `isModified_withModifiers`: modifiers stand behind their view, a line for each.
* `modifiers_written`: the modifiers of an element, whatever it is.
-/
namespace Storyboard.Layout

open Storyboard.Markup
open Storyboard.Number
open Storyboard.Text

/-! ## Constraints -/

/-- What a constraint can be on to become a modifier. -/
def constrainedEdges : List String :=
  ["leading", "top", "bottom", "trailing", "centerX", "centerY", "width", "height"]

/-- What a constraint is on. -/
def edgeOf (constraint : Element) : String := (constraint.attribute? "firstAttribute").getD ""

def constantOf (constraint : Element) : String := (constraint.attribute? "constant").getD "0"

/-- The constraints of an element that become modifiers, in document order. -/
def mappedConstraints (e : Element) : List Element :=
  match e.firstChild? "constraints" with
  | none => []
  | some container =>
    (container.childrenNamed "constraint").filter fun c => constrainedEdges.contains (edgeOf c)

theorem modifier_eq_empty {edge constant : String} :
    modifier edge constant = "" ↔ edge ∉ constrainedEdges := by
  constructor
  · intro hempty hedge
    simp only [constrainedEdges, List.mem_cons, List.not_mem_nil, or_false] at hedge
    rcases hedge with rfl | rfl | rfl | rfl | rfl | rfl | rfl | rfl <;> simp [modifier] at hempty
  · intro h
    simp only [constrainedEdges, List.mem_cons, List.not_mem_nil, or_false, not_or] at h
    simp [modifier, h]

/-- The constraints that become nothing are those on anything else. -/
theorem modifiers_eq (e : Element) : modifiers e = (mappedConstraints e).map modifierOf := by
  have hkept : ∀ c : Element, (modifierOf c != "") = constrainedEdges.contains (edgeOf c) := by
    intro c
    rw [Bool.eq_iff_iff, bne_iff_ne, List.contains_iff_mem, ← not_iff_comm, ← modifier_eq_empty]
    rfl
  unfold modifiers mappedConstraints
  cases e.firstChild? "constraints" with
  | none => rfl
  | some container =>
    simp only [List.filter_map]
    exact congrArg _ (List.filter_congr fun c _ => hkept c)

/-- A modifier is one line if the constant is. -/
theorem inked_modifier {edge constant : String} (h : edge ∈ constrainedEdges)
    (hconstant : IsUnbroken constant.toList) : IsInkedLine (modifier edge constant) := by
  have hnumber : ∀ front : String, IsInkedLine front → IsInkedLine (front ++ constant ++ ")") :=
    fun front hfront => (hfront.append hconstant).append (by decide)
  simp only [constrainedEdges, List.mem_cons, List.not_mem_nil, or_false] at h
  rcases h with rfl | rfl | rfl | rfl | rfl | rfl | rfl | rfl
  · exact hnumber ".padding(.leading, " (by decide)
  · exact hnumber ".padding(.top, " (by decide)
  · exact hnumber ".padding(.bottom, " (by decide)
  · exact hnumber ".padding(.trailing, " (by decide)
  · exact (by decide : IsInkedLine ".frame(maxWidth: .infinity, alignment: .center)")
  · exact (by decide : IsInkedLine ".frame(maxHeight: .infinity, alignment: .center)")
  · exact hnumber ".frame(width: " (by decide)
  · exact hnumber ".frame(height: " (by decide)

/-- Is none of the constants that modifiers are made of broken into lines? -/
def HasUnbrokenConstants (e : Element) : Prop :=
  ∀ c ∈ mappedConstraints e, IsUnbroken (constantOf c).toList

theorem edge_of_mem_mappedConstraints {e c : Element} (h : c ∈ mappedConstraints e) :
    edgeOf c ∈ constrainedEdges := by
  unfold mappedConstraints at h
  split at h
  · cases h
  · exact List.contains_iff_mem.mp (List.mem_filter.mp h).2

theorem inked_modifiers {e : Element} (h : HasUnbrokenConstants e) :
    ∀ m ∈ modifiers e, IsInkedLine m := by
  rw [modifiers_eq]
  exact List.forall_mem_map.mpr fun c hc =>
    inked_modifier (edge_of_mem_mappedConstraints hc) (h c hc)

/-- Cutting the text that the modifiers are kept in gives them back. -/
theorem inkedLines_constraintLines {e : Element} (h : HasUnbrokenConstants e) :
    inkedLines (constraintLines e) = (mappedConstraints e).map modifierOf := by
  rw [← modifiers_eq]
  exact inkedLines_joined (inked_modifiers h)

theorem constraints_of_placementOf {e : Element} {p : Placement} (h : placementOf e = .ok p) :
    p.constraints = constraintLines e := by
  simp only [placementOf, bind_eq_ok, pure_eq_ok] at h
  obtain ⟨_, _, rfl⟩ := h
  rfl

end Storyboard.Layout

namespace Storyboard.Swift

open Storyboard.Layout
open Storyboard.Markup
open Storyboard.Number (Binary64)
open Storyboard.Text

/-! ## Views -/

/-- The modifiers that every view for an element of a name has. -/
def ownModifiers (name : String) : List String :=
  match name with
  | "textField" => [".textFieldStyle(.roundedBorder)"]
  | "imageView" => [".resizable()", ".scaledToFit()"]
  | "pickerView" => [".pickerStyle(.wheel)"]
  | "datePicker" => [".datePickerStyle(.compact)"]
  | "tableView" => [".listStyle(.plain)"]
  | _ => []

theorem fixedModifiers_of_rule {now : Binary64} {e : Element} {name : String} {rule : Rule}
    (hrule : rule? name = some rule) {kind : Control} (h : rule now e = .ok kind) :
    fixedModifiers kind = ownModifiers name := by
  unfold rule? at hrule
  split at hrule <;> cases hrule
  case h_6 | h_9 =>
    simp only [bind_eq_ok, pure_eq_ok] at h
    obtain ⟨_, _, rfl⟩ := h
    rfl
  -- the other rules read no number
  all_goals
    cases h
    rfl

/-- The view that a component is, without modifiers. -/
def bareView : Component → Written String
  | .control kind _ => viewOf kind
  | .stack axis _ children => do
    return block (stackName axis) ("\n".intercalate (← expressions children))
  | .spacer height id => expression none (.spacer height id)

/-- Does the text end in a character that breaks no line? -/
def IsClosed (s : String) : Prop := ∃ c ∈ s.toList.getLast?, isLineBreak c = false

theorem isClosed_append (s : String) {t : String} (h : IsClosed t) : IsClosed (s ++ t) := by
  obtain ⟨c, hlast, hc⟩ := h
  exact ⟨c, by simp [List.getLast?_append, Option.mem_def.mp hlast], hc⟩

theorem isClosed_block (head content : String) : IsClosed (block head content) := by
  unfold block
  split
  · exact isClosed_append head ⟨'\x7d', rfl, rfl⟩
  · exact isClosed_append _ ⟨'\x7d', rfl, rfl⟩

theorem isClosed_viewOf {kind : Control} {view : String} (h : viewOf kind = .ok view) :
    IsClosed view := by
  cases kind with
  | unknown => cases h
  | button | toggle | picker | table | scroll =>
    cases h
    exact isClosed_block _ _
  | label | textField | image | textView | slider | datePicker =>
    cases h
    exact isClosed_append _ ⟨')', rfl, rfl⟩

/-- Does the text consist of the view and, behind it, a line for each modifier, four spaces in? -/
structure IsModified (view : String) (modifiers : List String) (text : String) : Prop where
  text_eq : text = joined (view :: modifiers.map (padded 4))
  lines_eq : lines text.toList = lines view.toList ++ modifiers.map fun m => (padded 4 m).toList

/-- Lines behind a text that ends in no break are cut apart again. -/
theorem lines_joined_behind {view : String} (hview : IsClosed view) {ls : List String}
    (h : ∀ l ∈ ls, IsInkedLine l) :
    lines (joined (view :: ls)).toList = lines view.toList ++ ls.map String.toList := by
  obtain ⟨c, hlast, hc⟩ := hview
  obtain ⟨front, hfront⟩ := List.getLast?_eq_some_iff.mp hlast
  cases ls with
  | nil => simp
  | cons first rest =>
    have hcut : (joined (view :: first :: rest)).toList =
        front ++ c :: '\n' :: (joined (first :: rest)).toList := by
      simp [joined_cons_cons, hfront]
    rw [hcut, lines_append_feed_of_closed front hc, lines_joined h, hfront]

theorem isModified_withModifiers {view : String} (hview : IsClosed view) {modifiers : List String}
    (h : ∀ m ∈ modifiers, IsInkedLine m) :
    IsModified view modifiers (withModifiers view modifiers) := by
  have htext := withModifiers_joined (List.cons_ne_nil view []) h
  rw [joined_singleton, List.singleton_append] at htext
  refine ⟨htext, ?_⟩
  rw [htext, lines_joined_behind hview (inked_map_lineAt h 1), List.map_map]
  rfl

/-! ## Elements -/

/-- The modifiers of an element, `top` points below the one before it: those that its view always has, the
space above, and one for each constraint that becomes one. -/
def modifiersOf (top : Option Int) (e : Element) : List String :=
  ownModifiers e.name ++ (top.map fun n => ".padding(.top, " ++ toString n ++ ")").toList ++
    (mappedConstraints e).map modifierOf

section
variable {now : Binary64} {e : Element} {c : Component}

/-- A component of an element is its view with the modifiers of the element. -/
theorem expression_of_component? (h : component? now e = .ok (some c))
    (hconstants : HasUnbrokenConstants e) (top : Option Int) :
    expression top c = (withModifiers · (modifiersOf top e)) <$> bareView c := by
  rcases component?_cases h with
    ⟨hstack, p, children, hp, -, hc⟩ | ⟨-, rule, kind, p, hrule, hkind, hp, hc⟩ | ⟨-, hc⟩
  · cases hc
    have hname : e.name = "stackView" := by simpa [isStackName] using hstack
    have hmodifiers : allModifiers [] top p.constraints = modifiersOf top e := by
      rw [allModifiers, constraints_of_placementOf hp, inkedLines_constraintLines hconstants,
        modifiersOf, hname]
      rfl
    rw [expression, bareView, hmodifiers]
    simp
  · cases hc
    have hmodifiers : allModifiers (fixedModifiers kind) top p.constraints = modifiersOf top e := by
      rw [allModifiers, constraints_of_placementOf hp, inkedLines_constraintLines hconstants,
        modifiersOf, fixedModifiers_of_rule hrule hkind]
    rw [expression, bareView, hmodifiers]
    simp
  · cases hc

theorem isClosed_bareView (h : component? now e = .ok (some c)) {view : String}
    (hview : bareView c = .ok view) : IsClosed view := by
  rcases component?_cases h with
    ⟨-, p, children, -, -, hc⟩ | ⟨-, rule, kind, p, -, -, -, hc⟩ | ⟨-, hc⟩
  · cases hc
    simp only [bareView, bind_eq_ok, pure_eq_ok] at hview
    obtain ⟨_, -, rfl⟩ := hview
    exact isClosed_block _ _
  · cases hc
    exact isClosed_viewOf hview
  · cases hc

theorem inked_modifiersOf (hconstants : HasUnbrokenConstants e) (top : Option Int) :
    ∀ m ∈ modifiersOf top e, IsInkedLine m := by
  have hown : ∀ m ∈ ownModifiers e.name, IsInkedLine m := by
    unfold ownModifiers
    split <;> decide
  have hall := inked_allModifiers hown top (constraintLines e)
  rwa [allModifiers, inkedLines_constraintLines hconstants] at hall

end

/-- **Modifiers keep their lines.** Each element of a name that has a component, no value of which has a
separator and no mapped constant of which is broken, has a component with an expression for each space
above. The expression is the view of the component, and behind it a line for each modifier in their order,
four spaces in: those that the view always has, the space above, and one for each constraint that becomes
a modifier. -/
theorem modifiers_written (now : Binary64) (e : Element) (h : e.isUnseparated = true)
    (hname : e.name ∈ componentNames) (hconstants : HasUnbrokenConstants e) :
    ∃ c view, component? now e = .ok (some c) ∧ bareView c = .ok view ∧
      ∀ top, ∃ text, expression top c = .ok text ∧ IsModified view (modifiersOf top e) text := by
  obtain ⟨c?, hc?, hwritable⟩ := exists_component? now h
  have hsome : c?.isSome = true := by
    rw [component?_isSome hc?, isMapped_eq]
    exact List.contains_iff_mem.mpr hname
  obtain ⟨c, rfl⟩ := Option.isSome_iff_exists.mp hsome
  have hexpression := expression_of_component? hc? hconstants
  obtain ⟨text, htext⟩ := (expression_isOk_iff none c).mpr (hwritable c rfl)
  rw [hexpression, map_eq_ok] at htext
  obtain ⟨view, hview, -⟩ := htext
  refine ⟨c, view, hc?, hview, fun top => ⟨withModifiers view (modifiersOf top e), ?_, ?_⟩⟩
  · rw [hexpression, hview]
    rfl
  · exact isModified_withModifiers (isClosed_bareView hc? hview) (inked_modifiersOf hconstants top)

/-- A column of one label. Of its three constraints the second is on something that has no modifier, and
the third has no constant. -/
def constrainedColumn : Element :=
  ⟨plainTag "stackView" [("axis", "vertical")],
    [plain "subviews" [] [plain "label" [("text", "one")] []],
      plain "constraints" []
        [plain "constraint" [("firstAttribute", "width"), ("constant", "100")] [],
          plain "constraint" [("firstAttribute", "baseline"), ("constant", "3")] [],
          plain "constraint" [("firstAttribute", "top")] []]]⟩

theorem modifiers_written_constrainedColumn : constrainedColumn.isUnseparated = true ∧
    constrainedColumn.name ∈ componentNames ∧ HasUnbrokenConstants constrainedColumn ∧
    ∃ c text, component? 42 constrainedColumn = .ok (some c) ∧ expression (some 8) c = .ok text ∧
      IsModified "VStack \x7b\n    Text(\"one\")\n\x7d"
        [".padding(.top, 8)", ".frame(width: 100)", ".padding(.top, 0)"] text := by
  have h : constrainedColumn.isUnseparated = true := by decide +kernel
  have hname : constrainedColumn.name ∈ componentNames := by decide +kernel
  have hconstants : HasUnbrokenConstants constrainedColumn := by
    unfold HasUnbrokenConstants
    decide +kernel
  obtain ⟨c, view, hc, hview, hall⟩ := modifiers_written 42 constrainedColumn h hname hconstants
  obtain ⟨text, htext, hmodified⟩ := hall (some 8)
  have hbare : (component? 42 constrainedColumn).toOption.join.bind (fun c => (bareView c).toOption) =
      some "VStack \x7b\n    Text(\"one\")\n\x7d" := by decide +kernel
  have hmodifiers : modifiersOf (some 8) constrainedColumn =
      [".padding(.top, 8)", ".frame(width: 100)", ".padding(.top, 0)"] := by decide +kernel
  rw [hc] at hbare
  have hbare : (bareView c).toOption = some "VStack \x7b\n    Text(\"one\")\n\x7d" := hbare
  rw [hview] at hbare
  have hview : view = "VStack \x7b\n    Text(\"one\")\n\x7d" := Option.some.inj hbare
  rw [hmodifiers, hview] at hmodified
  exact ⟨h, hname, hconstants, c, text, hc, htext, hmodified⟩

end Storyboard.Swift
