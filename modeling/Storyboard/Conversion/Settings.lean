import Storyboard.Number.Binary64
/-!
# Settings
-/
namespace Storyboard

open Storyboard.Number (Binary64)

/-- Mirrors `ConverterConfig`. -/
structure Settings where
  /-- The kinds of segue that add a screen to a navigation flow. -/
  flowSegueKinds : List String
  /-- The text of labels that only stand in for a text to come. -/
  placeholderText : String
  /-- The least and the greatest space above a component. -/
  minTopPadding : Binary64
  maxTopPadding : Binary64
  /-- The icon of a tab that names none. -/
  defaultTabIcon : String
  /-- What the name of an output folder starts with; the time follows. -/
  folderStem : String
  /-- The directory for the generated files, inside the output folder. -/
  generatedDirectory : String
  /-- Where output folders are made, if it is settled. -/
  outputRoot : Option String
  deriving Repr, DecidableEq

/-- The settings of a run that changes none. Mirrors the defaults of `ConverterConfig`. -/
def Settings.standard : Settings where
  flowSegueKinds := ["push", "show", "presentation", "model"]
  placeholderText := "Welcome! Please login"
  minTopPadding := 4
  maxTopPadding := 32
  defaultTabIcon := "house"
  folderStem := "StoryboardConverter_"
  generatedDirectory := "GeneratedSwiftUIFiles"
  outputRoot := none

/-- The environment variable that settles the output root if nothing else does. -/
def Settings.rootVariable : String := "STORYBOARD2SWIFTUI_OUT"

/-- The settings with the value of that variable, which counts unless an output root is given. -/
def Settings.withRoot (s : Settings) (value : Option String) : Settings :=
  { s with outputRoot := (s.outputRoot.filter (· != "")) <|> value }

end Storyboard
