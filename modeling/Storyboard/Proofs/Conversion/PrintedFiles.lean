import Storyboard.Proofs.Conversion.ClosedFiles
import Storyboard.Proofs.Conversion.Totality
import Storyboard.Proofs.Swift.Printing
/-!
# Printed files

The body of a screen stands in the file of the screen, or in the first file of a flow, where the
navigation is written around it. In both it is the same print of the components, three or four levels
deep, and what stands around it does not depend on the components.

* `screenFile_printed`, `flowRootFile_printed`: the two kinds of file with a body.
* `printed_in_one_pass`: the files are these, for all components that can be written in lines.
-/
namespace Storyboard

open Storyboard.Layout
open Storyboard.Markup
open Storyboard.Navigation
open Storyboard.Number (Binary64)
open Storyboard.Swift
open Storyboard.Text

section
variable {settings : Settings} {cs : List Component} (hwritable : ∀ c ∈ cs, c.isWritable = true)
  (htexts : AreUnbroken cs)
include hwritable htexts

theorem screenFile_printed (name : String) :
    screenFile name (joined (printedBody 0 settings cs)) =
      .ofLines name (screenOpening ++ printedBody 3 settings cs ++ screenClosing) := by
  have hbody := linesText_bodyLines settings hwritable htexts 3
  simp only [screenFile, ViewFile.ofLines, screenLines, linesText_append, ← hbody]

/-- The lines before and behind the body in the first file of a flow. -/
def flowOpening : List String := ["        NavigationStack \x7b", "            VStack \x7b"]

def flowClosing (title : String) (links : List Link) : List String :=
  links.map linkLine ++
    ["            \x7d", "            .navigationTitle(" ++ literal title ++ ")", "        \x7d"]

theorem flowRootFile_printed (name title : String) (links : List Link) :
    flowRootFile name title (joined (printedBody 0 settings cs)) links =
      .ofLines name (flowOpening ++ printedBody 4 settings cs ++ flowClosing title links) := by
  have hbody := linesText_bodyLines settings hwritable htexts 4
  simp only [flowRootFile, ViewFile.ofLines, flowRootLines, flowOpening, flowClosing, linesText_append,
    ← hbody, String.append_assoc]

end

/-- **Files are printed in one pass.** For components that can be written and quote no text with a line
break, and for finite paddings, the file of a screen holds the printed body three levels deep between
its opening and its closing lines. The first file of a flow whose first screen has these components
holds the same body four levels deep. Constraints can be any text, as can names and titles. -/
theorem printed_in_one_pass (settings : Settings) (hs : settings.hasFinitePadding = true)
    (cs : List Component) (hwritable : ∀ c ∈ cs, c.isWritable = true) (htexts : AreUnbroken cs) :
    (∀ name, (viewFile settings name cs).result = .ok ⟨name, linesText (header name ++
      (screenOpening ++ printedBody 3 settings cs ++ screenClosing) ++ footer name)⟩) ∧
    ∀ now (f : Flow), (components settings now f.root.site).result = .ok cs →
      ∃ name others, (flowFiles settings now f).result = .ok (⟨name, linesText (header name ++
        (flowOpening ++ printedBody 4 settings cs ++ flowClosing f.root.storyboardId (linksOf f)) ++
        footer name)⟩ :: others) := by
  have hbody := screenBody_eq_joined hs hwritable htexts
  constructor
  · intro name
    rw [viewFile, hbody]
    exact congrArg Except.ok (screenFile_printed hwritable htexts name)
  · intro now f hcs
    obtain ⟨files, hfiles⟩ := exists_flowFiles_of_body hcs hbody
    obtain ⟨body, ⟨cs', hcs', hbody'⟩, rfl⟩ := flowFiles_result hfiles
    have hsame : cs' = cs := Except.ok.inj (hcs'.symm.trans (components_result hcs))
    have hsame' : body = joined (printedBody 0 settings cs) :=
      Except.ok.inj (hbody'.symm.trans (hsame ▸ hbody))
    rw [hsame', flowRootFile_printed hwritable htexts] at hfiles
    exact ⟨_, _, hfiles⟩

/-- A row of a button and a picker with a constraint, and a label far below. -/
def rowAndLabel : Site :=
  plainScreen
    [plain "stackView" [("id", "row")]
      [plain "subviews" [] [plain "button" [("id", "b"), ("title", "Go")] [],
        plain "pickerView" [("id", "p")] []],
        plain "constraints" [] [plain "constraint" [("firstAttribute", "top"), ("constant", "8")] []]],
      plain "subviews" [] [plain "label" [("id", "l"), ("text", "Done")]
        [plain "rect" [("key", "frame"), ("y", "100")] []]]]

/-- What such a screen is made of. -/
def rowAndLabelComponents : List Component :=
  ((components Settings.standard 42 (some rowAndLabel)).result.toOption).getD []

theorem components_rowAndLabel : (components Settings.standard 42 (some rowAndLabel)).result =
    .ok rowAndLabelComponents := by
  have hscreen : ∀ s ∈ some rowAndLabel, s.element.isUnseparated = true := by decide +kernel
  obtain ⟨cs, hcs, -⟩ := exists_components Settings.standard 42 hscreen
  rw [rowAndLabelComponents, hcs]
  rfl

/-- Its body, three levels deep. -/
def rowAndLabelBody : List String :=
  ["            HStack \x7b",
    "                Button(action: \x7b print(\"Go tapped!\") \x7d) \x7b",
    "                    Text(\"Go\")",
    "                \x7d",
    "                Picker(\"Select\", selection: .constant(0)) \x7b",
    "                    ForEach(0..<2, id: \\.self) \x7b index in",
    "                        Text([\"Option 1\", \"Option 2\"][index])",
    "                    \x7d",
    "                \x7d",
    "                    .pickerStyle(.wheel)",
    "            \x7d",
    "                .padding(.top, 8)",
    "",
    "            Text(\"Done\")",
    "                .padding(.top, 32)"]

theorem printed_in_one_pass_rowAndLabel :
    Settings.standard.hasFinitePadding = true ∧
    (∀ c ∈ rowAndLabelComponents, c.isWritable = true) ∧ AreUnbroken rowAndLabelComponents ∧
    (components Settings.standard 42 (some rowAndLabel)).result = .ok rowAndLabelComponents ∧
    (viewFile Settings.standard "RowView" rowAndLabelComponents).result =
      .ok ⟨"RowView", linesText (header "RowView" ++ (screenOpening ++ rowAndLabelBody ++
        screenClosing) ++ footer "RowView")⟩ ∧
    ∃ file others, (flowFiles Settings.standard 42 ⟨⟨"a", "Home", some rowAndLabel⟩, []⟩).result =
      .ok (file :: others) := by
  have hs : Settings.standard.hasFinitePadding = true := by decide +kernel
  have hwritable : ∀ c ∈ rowAndLabelComponents, c.isWritable = true := by decide +kernel
  have htexts : AreUnbroken rowAndLabelComponents := by
    unfold AreUnbroken
    decide +kernel
  have hbody : printedBody 3 Settings.standard rowAndLabelComponents = rowAndLabelBody := by
    decide +kernel
  obtain ⟨hscreen, hflow⟩ := printed_in_one_pass Settings.standard hs _ hwritable htexts
  obtain ⟨name, others, hfiles⟩ := hflow 42 ⟨⟨"a", "Home", some rowAndLabel⟩, []⟩ components_rowAndLabel
  refine ⟨hs, hwritable, htexts, components_rowAndLabel, ?_, _, others, hfiles⟩
  rw [hscreen "RowView", hbody]

end Storyboard
