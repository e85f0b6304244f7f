import Storyboard.Navigation.Edge
import Storyboard.Sorting
/-!
# Navigation flows

A flow is a first screen and the screens that segues of accepted kinds lead to, wherever in the
document these segues start. The first segue that is related as `rootViewController` leads to the first
screen; a destination is found by id, and of several view controllers with one id the first counts.
There is no flow if no segue is so related or if its destination is not found. Any other segue whose
destination is not found is passed over.
-/
namespace Storyboard.Navigation

open Storyboard.Markup

/-- Mirrors `ScreenNode`. -/
structure Screen where
  id : String
  storyboardId : String
  site : Option Site
  deriving Repr

/-- Mirrors `_screen_from`. -/
def Screen.ofEdge (e : Edge) : Screen where
  id := e.id
  storyboardId := (e.attribute? "storyboardIdentifier").getD "Screen"
  site := e.site

/-- A first screen and the destinations of all segues of accepted kinds in the document, in the order
of the segues and some perhaps more than once. A child need not be linked from the first screen, not
even by way of others. Mirrors `NavigationFlowModel`. -/
structure Flow where
  root : Screen
  children : List Screen
  deriving Repr

def segues (es : List Edge) : List Edge := es.filter (·.kind = .segue)

/-- The first view controller of an id. -/
def viewController? (es : List Edge) (id : String) : Option Edge :=
  es.find? fun e => e.kind = .viewController && e.id = id

/-- The view controller that a segue leads to. -/
def destination? (es : List Edge) (segue : Edge) : Option Edge :=
  (segue.attribute? "destination").bind (viewController? es)

/-- The segue that leads to the first screen. -/
def rootSegue? (es : List Edge) : Option Edge :=
  (segues es).find? fun s => s.attribute? "relationship" = some "rootViewController"

/-- Is the segue of an accepted kind? -/
def isAccepted (kinds : List String) (segue : Edge) : Bool :=
  match segue.attribute? "kind" with
  | some kind => kinds.contains kind
  | none => false

/-- The screens that segues of accepted kinds lead to, wherever these start. -/
def linkedScreens (kinds : List String) (es : List Edge) : List Screen :=
  (((segues es).filter (isAccepted kinds)).filterMap (destination? es)).map Screen.ofEdge

/-- The flow that the edges make. -/
def flowOf? (kinds : List String) (es : List Edge) : Option Flow := do
  let segue ← rootSegue? es
  let root ← destination? es segue
  return ⟨Screen.ofEdge root, linkedScreens kinds es⟩

/-- The texts of a list, each once, in ascending order. -/
def sortedOnce (texts : List String) : List String :=
  sorted (fun a b => decide (a < b)) texts.eraseDups

/-- What is to be said about segues that are not followed: one of kind `modal` could have been meant
to be. -/
def modalNotices (kinds : List String) (es : List Edge) : List Notice :=
  ((segues es).filter fun s => s.attribute? "kind" = some "modal" && !isAccepted kinds s).map
    fun s => .modalSkipped s.id (sortedOnce kinds)

/-- The flow that the edges make, with notices of why there is none or what was left out.
Mirrors `build_navigation_flow`. -/
def flow (kinds : List String) (es : List Edge) : Logged (Option Flow) :=
  let notices :=
    match rootSegue? es with
    | none => [.noRootRelationship]
    | some segue =>
      if (destination? es segue).isSome then modalNotices kinds es
      else [.unknownRoot (segue.attribute? "destination")]
  ⟨notices, .ok (flowOf? kinds es)⟩

end Storyboard.Navigation
