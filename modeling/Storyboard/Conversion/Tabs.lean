import Storyboard.Conversion.Screen
import Storyboard.Navigation.TabBar
import Storyboard.Swift.ViewName
/-!
# Tabs

Each tab becomes a view of its own, even if it has no screen, and one more view holds them. The
views are named for the classes of the view controllers, or by number.
-/
namespace Storyboard

open Storyboard.Layout
open Storyboard.Markup
open Storyboard.Navigation
open Storyboard.Number (Binary64)
open Storyboard.Swift

/-- The name of the view that holds the tabs. -/
def tabBarName : String := "TabContentView"

/-- The tab of an entry, by the item in its view controller. -/
def tabOf (settings : Settings) (i : Nat) (view : String) (entry : TabEntry) : Tab :=
  let item := entry.site.bind fun s => s.element.firstChild? "tabBarItem"
  { view
    title := (item.bind (·.attribute? "title")).getD ("tab " ++ toString i)
    icon := (item.bind (·.attribute? "image")).getD settings.defaultTabIcon }

/-- What the name of the view of a tab is made from. Mirrors `_tab_view_name`. -/
def tabBase (i : Nat) (entry : TabEntry) : String :=
  if entry.className.isEmpty then "Tab" ++ toString i else entry.className

/-- The files and tabs of entries, numbered from `i` on. -/
def tabViews (settings : Settings) (now : Binary64) (i : Nat) (used : List String) :
    List TabEntry → Logged (List (ViewFile × Tab))
  | [] => return []
  | entry :: rest => do
    let name := unusedName (tabBase i entry) used
    let file ← viewFile settings name (← components settings now entry.site)
    return (file, tabOf settings i name entry) ::
      (← tabViews settings now (i + 1) (name :: used) rest)

/-- The files of tabs, that of the tab bar last. Mirrors `generate_tab_units`. -/
def tabFiles (settings : Settings) (now : Binary64) (entries : List TabEntry) :
    Logged (List ViewFile) := do
  let views ← tabViews settings now 1 [tabBarName] entries
  return views.map Prod.fst ++ [tabBarFile tabBarName (views.map Prod.snd)]

end Storyboard
