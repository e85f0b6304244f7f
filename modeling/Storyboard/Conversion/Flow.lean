import Storyboard.Conversion.Screen
import Storyboard.Navigation.Flow
import Storyboard.Swift.ViewName
/-!
# Flows

The first screen of a flow becomes a view with its components and a link to each other screen; the
others become views that only name themselves. A screen that several segues lead to counts once, and
one that leads back to the first screen not at all.
-/
namespace Storyboard

open Storyboard.Layout
open Storyboard.Markup
open Storyboard.Navigation
open Storyboard.Number (Binary64)
open Storyboard.Swift

/-- The screens whose id no earlier one and none of `seen` has, and the ids of the others. -/
def distinctScreens (seen : List String) : List Screen → List Screen × List String
  | [] => ([], [])
  | s :: rest =>
    if seen.contains s.id then
      let (kept, repeated) := distinctScreens seen rest
      (kept, s.id :: repeated)
    else
      let (kept, repeated) := distinctScreens (s.id :: seen) rest
      (s :: kept, repeated)

/-- Screens with the names of their views. -/
def namedScreens (used : List String) : List Screen → List (Screen × String)
  | [] => []
  | s :: rest =>
    let name := unusedName s.storyboardId used
    (s, name) :: namedScreens (name :: used) rest

/-- The files of a flow, that of the first screen in front. Mirrors `generate_flow_units`. -/
def flowFiles (settings : Settings) (now : Binary64) (f : Flow) : Logged (List ViewFile) := do
  let cs ← components settings now f.root.site
  if cs.isEmpty then Logged.note (.emptyRootScreen f.root.storyboardId)
  let (children, repeated) := distinctScreens [f.root.id] f.children
  let rootName := unusedName f.root.storyboardId []
  let named := namedScreens [rootName] children
  let _ ← repeated.mapM fun id => Logged.note (.repeatedScreen id)
  let body ← Logged.lift (screenBody settings cs)
  let links := named.map fun (s, name) => Link.mk s.storyboardId name
  return flowRootFile rootName f.root.storyboardId body links ::
    named.map fun (s, name) => flowChildFile name s.storyboardId

end Storyboard
