import Storyboard.Conversion.Logged
import Storyboard.Layout.Extraction
import Storyboard.Swift.Spacing
import Storyboard.Swift.ViewFile
/-!
# Screens

A screen is converted by its components alone: they are taken from its element, and a file is
written from them. The current time stands in for the date of a date picker that has none.
-/
namespace Storyboard

open Storyboard.Layout
open Storyboard.Markup
open Storyboard.Number (Binary64)
open Storyboard.Swift

/-- The components of a screen, reported in a notice. -/
def components (settings : Settings) (now : Binary64) (screen : Option Site) :
    Logged (List Component) := do
  let cs ← Logged.lift
    ((screenComponents now settings.placeholderText screen).mapError Failure.unconvertible)
  Logged.note (.extracted cs)
  return cs

/-- The file of a screen with the given components. Mirrors `generate_view_code`. -/
def viewFile (settings : Settings) (name : String) (cs : List Component) : Logged ViewFile := do
  return screenFile name (← Logged.lift (screenBody settings cs))

end Storyboard
