import Storyboard.Disk.Tree
import Storyboard.Layout.Component
import Storyboard.Markup.Fault
import Storyboard.Markup.Writing
/-!
# Notices

What a run reports on its way, by its cause; each notice has a severity and a text of one or more
lines. What was wrong with a file shows in a text in a wording that `textWith` takes as an argument.
-/
namespace Storyboard

open Storyboard.Layout
open Storyboard.Markup
open Storyboard.Text (quoted quotedList)

inductive Severity where
  | debug
  | info
  | warning
  | error
  deriving Repr, DecidableEq

def Severity.name : Severity → String
  | .debug => "DEBUG"
  | .info => "INFO"
  | .warning => "WARNING"
  | .error => "ERROR"

def Severity.rank : Severity → Nat
  | .debug => 0
  | .info => 1
  | .warning => 2
  | .error => 3

/-- Why a document file could not be read. -/
inductive ReadFailure where
  | unopened (cause : Disk.Fault)
  | faulty (cause : Fault)
  deriving Repr, DecidableEq

namespace ReadFailure

/-- Is the file a text, though not a document? -/
def isMalformed : ReadFailure → Bool
  | .unopened _ | .faulty .undecodable => false
  | .faulty _ => true

def detail : ReadFailure → String
  | .unopened cause => cause.text
  | .faulty cause => cause.text

end ReadFailure

inductive Notice where
  /-- The components of a screen. -/
  | extracted (components : List Component)
  | navigationElements (count : Nat)
  | noRootRelationship
  | unknownRoot (destination : Option String)
  | modalSkipped (segue : String) (accepted : List String)
  | tabElements (count : Nat)
  | fromViewControllers
  | fromViews
  | emptyView (name : String)
  | emptyRootScreen (storyboardId : String)
  | repeatedScreen (id : String)
  /-- The elements of the view controller of this number follow. -/
  | viewController (number : Nat)
  | element (excerpt : Excerpt)
  | tabBarFound
  | flowUnavailable
  | parsed (path root : String)
  | parseFailed (path : String) (cause : ReadFailure)
  | nothingGenerated
  | copied (path : String)
  | copyFailed (reason : String)
  | generated (path : String)
  | writeFailed (path reason : String)
  | noFileSelected
  deriving Repr

namespace Notice

def severity : Notice → Severity
  | .extracted _ | .repeatedScreen _ | .viewController _ | .element _ | .parsed .. => .debug
  | .navigationElements _ | .noRootRelationship | .unknownRoot _ | .tabElements _
  | .fromViewControllers | .fromViews | .tabBarFound | .copied _ | .generated _ => .info
  | .modalSkipped .. | .emptyView _ | .emptyRootScreen _ | .flowUnavailable
  | .nothingGenerated => .warning
  | .parseFailed .. | .copyFailed _ | .writeFailed .. | .noFileSelected => .error

/-- A text or its absence, quoted. -/
def quotedOption : Option String → String
  | none => "None"
  | some s => quoted s

/-- What there is to say about a file that could not be read, in front of the detail. -/
def readFailureHead (path : String) (cause : ReadFailure) : String :=
  if cause.isMalformed then "Malformed storyboard XML in " ++ path
  else "Cannot read storyboard " ++ path

/-- The text of a notice, with the given wording of details. -/
def textWith (wording : ReadFailure → String) : Notice → String
  | .extracted components =>
    "Extracted UI components: [" ++ ", ".intercalate (descriptions components) ++ "]"
  | .navigationElements count => "Navigation elements found: " ++ toString count
  | .noRootRelationship => "No rootViewController relationship; no navigation flow"
  | .unknownRoot destination =>
    "rootViewController destination " ++ quotedOption destination ++
      " is not a known viewController"
  | .modalSkipped segue accepted =>
    "Segue " ++ segue ++ " has kind 'modal', which is not in the accepted kinds " ++
      quotedList accepted ++ "; skipped"
  | .tabElements count => "Tab navigation elements: " ++ toString count
  | .fromViewControllers => "Generating SwiftUI files for view controllers..."
  | .fromViews => "Generating SwiftUI files for views..."
  | .emptyView name => "No UI components found for " ++ name
  | .emptyRootScreen storyboardId => "No UI components found for root screen " ++ storyboardId
  | .repeatedScreen id => "Skipping duplicate flow screen " ++ id
  | .viewController number => "ViewController " ++ toString number ++ " XML Structure:"
  | .element excerpt => "Component Type: " ++ excerpt.tag.name.text ++ "\n" ++ excerpt.written
  | .tabBarFound => "Tab bar controller detected. Generating SwiftUI code for tab bar..."
  | .flowUnavailable => "Navigation flow could not be built; falling back to flat views"
  | .parsed path root => "Parsed " ++ path ++ " (root <" ++ root ++ ">)"
  | .parseFailed path cause =>
    "Failed to parse storyboard: " ++ readFailureHead path cause ++ ": " ++ wording cause
  | .nothingGenerated => "No SwiftUI files generated"
  | .copied path => "File added successfully to " ++ path
  | .copyFailed reason => "Error adding file: " ++ reason
  | .generated path => "Generated SwiftUI: " ++ path
  | .writeFailed path reason => "Failed to create file " ++ path ++ ": " ++ reason
  | .noFileSelected => "No file selected."

/-- The notice as a line of the log. -/
def lineWith (wording : ReadFailure → String) (n : Notice) : String :=
  "[" ++ n.severity.name ++ "] " ++ n.textWith wording

def line (n : Notice) : String := n.lineWith ReadFailure.detail

end Notice

end Storyboard
