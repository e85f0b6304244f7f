import Storyboard.Conversion.Flat
import Storyboard.Conversion.Flow
import Storyboard.Conversion.Tabs
import Storyboard.Navigation.Edge
/-!
# Modes

A document with a tab bar controller is converted tab by tab, one with a navigation controller as a
flow, any other one screen by screen; so is one whose navigation controller leads nowhere. Only
controllers in their regular place count.
-/
namespace Storyboard

open Storyboard.Layout
open Storyboard.Markup
open Storyboard.Navigation
open Storyboard.Number (Binary64)
open Storyboard.Swift

inductive ConversionMode where
  | tab
  | flow
  | flat
  deriving Repr, DecidableEq

/-- Mirrors `get_tab_bar_controllers`. -/
def tabBars (s : Site) : List Site :=
  s.follow ["scenes", "scene", "objects", "tabBarController"]

/-- Mirrors `has_navigation_controller`. -/
def hasNavigation (s : Site) : Bool :=
  !(s.follow ["scenes", "scene", "objects", "navigationController"]).isEmpty

/-- Mirrors `detect_mode`. -/
def modeOf (s : Site) : ConversionMode :=
  if !(tabBars s).isEmpty then .tab else if hasNavigation s then .flow else .flat

/-- The elements of each view controller below a site, each in a notice.
Mirrors `_log_extracted_elements`. -/
def elementNotices (d : Document) (s : Site) : List Notice :=
  ((viewControllers s).zipIdx 1).flatMap fun (controller, i) =>
    .viewController i :: (d.excerptsBelow controller).map .element

/-- The files of what is below a site of a document. Mirrors `convert_root`. -/
def convertSite (settings : Settings) (now : Binary64) (d : Document) (s : Site) :
    Logged (List ViewFile) := do
  let _ ← (elementNotices d s).mapM Logged.note
  match modeOf s with
  | .tab => do
    Logged.note .tabBarFound
    tabFiles settings now (← tabEntries d)
  | .flow => do
    match ← flow settings.flowSegueKinds (← edges d) with
    | some f => flowFiles settings now f
    | none => do
      Logged.note .flowUnavailable
      flatFiles settings now s
  | .flat => flatFiles settings now s

/-- The files of a document. -/
def convert (settings : Settings) (now : Binary64) (d : Document) : Logged (List ViewFile) :=
  convertSite settings now d d.site

end Storyboard
