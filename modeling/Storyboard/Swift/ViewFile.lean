import Storyboard.Swift.Expression
/-!
# View files

A generated file holds one view and its preview. There are four kinds: a screen with a body, the
first screen of a navigation flow with links to the others, another screen of a flow, which only
names itself, and a tab bar.
-/
namespace Storyboard.Swift

open Storyboard.Text

/-- Mirrors `OutputUnit`. -/
structure ViewFile where
  /-- The name of the view. -/
  name : String
  text : String
  deriving Repr, DecidableEq

/-- Mirrors `OutputUnit.file_name`. -/
def ViewFile.fileName (f : ViewFile) : String := f.name ++ ".swift"

/-- A link from the first screen of a flow to another. -/
structure Link where
  title : String
  view : String
  deriving Repr, DecidableEq

structure Tab where
  view : String
  title : String
  icon : String
  deriving Repr, DecidableEq

/-- The lines that every file starts with. -/
def header (name : String) : List String :=
  ["import SwiftUI", "", "struct " ++ name ++ ": View \x7b", "    var body: some View \x7b"]

/-- The lines that every file ends with: the ends of the view, and its preview.
Mirrors the template `preview` in part. -/
def footer (name : String) : List String :=
  ["    \x7d", "\x7d", "", "#if DEBUG", "#Preview \x7b", "    " ++ name ++ "()", "\x7d", "#endif"]

/-- A body `n` spaces in, as one item of a list of lines; nothing if it is empty. -/
def bodyLines (n : Nat) (body : String) : List String :=
  if body.isEmpty then [] else [String.ofList (spaces n) ++ hang n body]

/-- The file of a view with the given lines inside. -/
def ViewFile.ofLines (name : String) (inner : List String) : ViewFile where
  name := name
  text := linesText (header name ++ inner ++ footer name)

/-- The lines around the body of a screen. -/
def screenOpening : List String := ["        VStack(alignment: .center, spacing: 0) \x7b"]

def screenClosing : List String :=
  ["        \x7d", "        .padding()",
    "        .frame(maxWidth: .infinity, maxHeight: .infinity, alignment: .center)",
    "        .background(Color.white)"]

def screenLines (body : String) : List String := screenOpening ++ bodyLines 12 body ++ screenClosing

/-- Mirrors the template `screen`. -/
def screenFile (name body : String) : ViewFile := .ofLines name (screenLines body)

def linkLine (link : Link) : String :=
  "                NavigationLink(" ++ literal link.title ++ ", destination: " ++ link.view ++ "())"

def flowRootLines (title body : String) (links : List Link) : List String :=
  ["        NavigationStack \x7b", "            VStack \x7b"] ++ bodyLines 16 body ++
    links.map linkLine ++
    ["            \x7d", "            .navigationTitle(" ++ literal title ++ ")", "        \x7d"]

/-- Mirrors the template `flow_root`. -/
def flowRootFile (name title body : String) (links : List Link) : ViewFile :=
  .ofLines name (flowRootLines title body links)

def flowChildLines (title : String) : List String :=
  ["        VStack \x7b", "            Text(" ++ literal ("current view is " ++ title) ++ ")",
    "        \x7d", "        .padding()", "        .navigationTitle(" ++ literal title ++ ")"]

/-- Mirrors the template `flow_child`. -/
def flowChildFile (name title : String) : ViewFile := .ofLines name (flowChildLines title)

def tabLines (tab : Tab) : List String :=
  ["            " ++ tab.view ++ "()", "                .tabItem \x7b",
    "                    Label(" ++ literal tab.title ++ ", systemImage: " ++ literal tab.icon ++ ")",
    "                \x7d"]

def tabBarLines (tabs : List Tab) : List String :=
  ["        TabView \x7b"] ++ tabs.flatMap tabLines ++ ["        \x7d"]

/-- Mirrors the template `tab_container`. -/
def tabBarFile (name : String) (tabs : List Tab) : ViewFile := .ofLines name (tabBarLines tabs)

end Storyboard.Swift
