import Storyboard.Markup.Site
/-!
# Elements written out

Small documents to state facts about are written with elements in no namespace whose attributes are
plain text.
-/
namespace Storyboard.Markup

def plainTag (name : String) (attributes : List (String × String)) : Tag :=
  ⟨⟨none, name⟩, none, [], attributes.map fun (n, v) => ⟨⟨none, n⟩, none, [.text v]⟩, []⟩

def plain (name : String) (attributes : List (String × String)) (children : List Node) : Node :=
  .element (plainTag name attributes) children

/-- A view controller that is the root, with its content. -/
def plainScreen (children : List Node) : Site := ⟨[], plainTag "viewController" [], children⟩

end Storyboard.Markup
