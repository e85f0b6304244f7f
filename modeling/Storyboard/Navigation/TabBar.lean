import Storyboard.Conversion.Logged
/-!
# Tab bars

A tab bar controller holds one segue for each tab, anywhere below it, related as `viewControllers`.
The segue's destination is the first view controller of that id; a tab whose destination is not
found stays, without a screen.
-/
namespace Storyboard.Navigation

open Storyboard.Markup

/-- Mirrors `TabEntry`. -/
structure TabEntry where
  /-- The id of the view controller that the segue leads to. -/
  destination : String
  /-- The id of the segue. -/
  segue : String
  /-- The class of the view controller, empty if it has none of its own. -/
  className : String
  site : Option Site
  deriving Repr

/-- The tabs' segues below a site. -/
def tabSegues (s : Site) : List Site :=
  s.descendants.filter fun t =>
    t.name == "segue" && t.element.ownAttribute? "relationship" == some "viewControllers"

/-- The view controllers that have an id of their own, namely this one. -/
def viewControllersOf (d : Document) (id : String) : List Site :=
  d.sites.filter fun s => s.name == "viewController" && s.element.ownAttribute? "id" == some id

def TabEntry.ofSegue (d : Document) (segue : Site) : TabEntry :=
  let destination := (segue.attribute? "destination").getD ""
  let site := (viewControllersOf d destination).head?
  { destination
    segue := (segue.attribute? "id").getD ""
    className := (site.bind (·.attribute? "customClass")).getD ""
    site }

/-- The tabs of a document: tab bar by tab bar, and in each by segue. -/
def tabEntriesOf (d : Document) : List TabEntry :=
  (d.sitesNamed "tabBarController").flatMap fun bar => (tabSegues bar).map (TabEntry.ofSegue d)

/-- The tabs of a document, counted in a notice. Mirrors `get_tab_navigation_elements`. -/
def tabEntries (d : Document) : Logged (List TabEntry) := do
  let tabs := tabEntriesOf d
  Logged.note (.tabElements tabs.length)
  return tabs

end Storyboard.Navigation
