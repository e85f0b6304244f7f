import Storyboard.Conversion.Screen
/-!
# Screen by screen

Without a tab bar and without a navigation flow, each view controller becomes a view of its own. In
a document without view controllers its views stand for them, and without those its first table view
cell. Screens are numbered in document order; one without components is left out and keeps its
number.
-/
namespace Storyboard

open Storyboard.Layout
open Storyboard.Markup
open Storyboard.Number (Binary64)
open Storyboard.Swift

/-- The file of a screen, unless it has no components. Mirrors `_flat_unit`. -/
def flatFile (settings : Settings) (now : Binary64) (name : String) (screen : Site) :
    Logged (List ViewFile) := do
  let cs ← components settings now (some screen)
  if cs.isEmpty then
    Logged.note (.emptyView name)
    return []
  else return [← viewFile settings name cs]

/-- The files of screens, named by their numbers from `i` on. A screen without components keeps its
number. -/
def numberedFiles (settings : Settings) (now : Binary64) (i : Nat) :
    List Site → Logged (List ViewFile)
  | [] => return []
  | screen :: rest =>
    return (← flatFile settings now ("GeneratedView" ++ toString i) screen) ++
      (← numberedFiles settings now (i + 1) rest)

def viewControllers (s : Site) : List Site :=
  s.follow ["scenes", "scene", "objects", "viewController"]

/-- The screens below a site: its view controllers, or its views if there are none. -/
def flatScreens (s : Site) : List Site :=
  if (viewControllers s).isEmpty then s.follow ["objects", "view"] else viewControllers s

/-- One file for each screen. Without any screen, a table view cell counts as one.
Mirrors `generate_flat_units`. -/
def flatFiles (settings : Settings) (now : Binary64) (s : Site) : Logged (List ViewFile) := do
  Logged.note (if (viewControllers s).isEmpty then .fromViews else .fromViewControllers)
  if (flatScreens s).isEmpty then
    match s.follow ["objects", "tableViewCell", "tableViewCellContentView"] with
    | [] => return []
    | cell :: _ => flatFile settings now "TableCellContentView" cell
  else numberedFiles settings now 1 (flatScreens s)

end Storyboard
