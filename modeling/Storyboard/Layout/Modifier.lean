import Storyboard.Markup.Site
/-!
# Modifiers from constraints

A constraint of an element becomes a modifier of its view, by the attribute that it constrains; a
constraint on any other attribute becomes nothing. The modifiers of an element are kept as lines of
one text.
-/
namespace Storyboard.Layout

open Storyboard.Markup

/-- The modifier for what is constrained, empty if there is none.
Mirrors `constraint_to_modifier`. -/
def modifier (edge constant : String) : String :=
  if edge = "leading" ∨ edge = "top" ∨ edge = "bottom" ∨ edge = "trailing" then
    ".padding(." ++ edge ++ ", " ++ constant ++ ")"
  else if edge = "centerX" then ".frame(maxWidth: .infinity, alignment: .center)"
  else if edge = "centerY" then ".frame(maxHeight: .infinity, alignment: .center)"
  else if edge = "width" then ".frame(width: " ++ constant ++ ")"
  else if edge = "height" then ".frame(height: " ++ constant ++ ")"
  else ""

/-- The modifier of one constraint. -/
def modifierOf (constraint : Element) : String :=
  modifier ((constraint.attribute? "firstAttribute").getD "")
    ((constraint.attribute? "constant").getD "0")

/-- The modifiers of an element, one for each constraint that has one, in document order. -/
def modifiers (e : Element) : List String :=
  match e.firstChild? "constraints" with
  | none => []
  | some container =>
    ((container.childrenNamed "constraint").map modifierOf).filter (· != "")

/-- The modifiers as lines of one text. Mirrors `extract_constraints`. -/
def constraintLines (e : Element) : String := "\n".intercalate (modifiers e)

end Storyboard.Layout
