import Storyboard.Run.FileConversion
import Storyboard.Run.Options
import Storyboard.Text.Lines
/-!
# Command line

A run from its arguments to its end. If no input file is given, its path is asked for.
-/
namespace Storyboard

/-- The summary of the options. -/
def usageText : String :=
  Text.linesText
    ["usage: storyboard2swiftui [-h] [--input INPUT] [--out OUT]",
      "                          [--flow-segue-kind FLOW_SEGUE_KINDS] [--no-copy]",
      "                          [-v]"]

def helpText : String :=
  usageText ++ Text.linesText
    ["",
      "Storyboard/XIB → SwiftUI converter",
      "",
      "options:",
      "  -h, --help            show this help message and exit",
      "  --input INPUT         Path to the .storyboard or .xib file (prompted when",
      "                        omitted)",
      "  --out OUT             Directory in which the StoryboardConverter_<timestamp>",
      "                        folder is created (default: ~/Downloads, or the",
      "                        current directory)",
      "  --flow-segue-kind FLOW_SEGUE_KINDS",
      "                        Segue kind that adds a screen to the navigation flow",
      "                        (repeatable; replaces the default",
      "                        push/show/presentation/model)",
      "  --no-copy             Do not copy the input file next to the generated files",
      "  -v, --verbose         Log extracted components and XML elements"]

/-- What is said about arguments that cannot be used. -/
def misuseText (misuse : Misuse) : String :=
  usageText ++ "storyboard2swiftui: error: " ++ misuse.text ++ "\n"

def promptText : String := "Enter the path to your storyboard/xib file to migrate: "

/-- How a run ends. -/
inductive Ending where
  /-- The arguments ended it: they ask for help or cannot be used. -/
  | atArguments (code : Nat)
  | finished (code : Nat)
  | failed (cause : RunFailure)
  deriving Repr, DecidableEq

section

variable {m : Type → Type} [Monad m]

/-- Asks for the path of the input file. -/
def askPath (host : Host m) : Run m String := do
  if let .error cause ← (host.print promptText : m _) then throw (.disk cause none)
  match ← (host.line? : m _) with
  | .ok (some line) => return String.ofList (Text.trim line.toList)
  | .ok none => throw .endOfInput
  | .error cause => throw (.disk cause none)

/-- The settings of a run with the given options. -/
def settingsOf (root : Option String) (o : Options) : Settings :=
  let standard := Settings.standard.withRoot root
  if o.flowSegueKinds.isEmpty then standard
  else { standard with flowSegueKinds := o.flowSegueKinds }

/-- Converts the file that the options name, or asks for one.
Mirrors `main` behind its arguments. -/
def convertAsAsked (host : Host m) (o : Options) : Run m Nat := do
  let level : Severity := if o.verbose then .debug else .info
  let path ← match o.input.filter (· != "") with
    | some path => pure path
    | none => askPath host
  if path.isEmpty then
    (report host level .noFileSelected : m Unit)
    return 1
  else
    let root ← (host.environment? Settings.rootVariable : m _)
    convertFile host level (settingsOf root o) path o.out (!o.noCopy)

/-- A run on the given arguments. Mirrors `main`. -/
def run (host : Host m) (arguments : List String) : m Ending := do
  match Request.ofArguments arguments with
  | .error misuse =>
    host.complain (misuseText misuse)
    return .atArguments 2
  | .ok .help =>
    let _ ← host.print helpText
    return .atArguments 0
  | .ok (.convert o) =>
    match ← (convertAsAsked host o).run with
    | .ok code => return .finished code
    | .error cause => return .failed cause

end

end Storyboard
