import Storyboard.Layout.Component
/-!
# Ownership

A horizontal stack draws its children itself, so on a screen they are not drawn a second time beside
it. The screen's components are told apart by id: a component is dropped if its id is that of a
child of some horizontal stack on the screen. Children without an id are owned by nobody, and
vertical stacks own none.
-/
namespace Storyboard.Layout

/-- The ids that a component owns. -/
def Component.owned : Component → List String
  | .stack .horizontal _ children => (children.map Component.id).filter (· != "")
  | _ => []

/-- The ids that the components own together. -/
def owned (cs : List Component) : List String := cs.flatMap Component.owned

/-- The components that no horizontal stack among them owns. Mirrors `remove_hstack_children`. -/
def unowned (cs : List Component) : List Component :=
  let taken := owned cs
  cs.filter fun c => !taken.contains c.id

end Storyboard.Layout
