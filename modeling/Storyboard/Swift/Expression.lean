import Storyboard.Conversion.Failure
import Storyboard.Layout.Component
import Storyboard.Text.Lines
/-!
# View expressions

A component is written as a view expression: a line for the view, then its modifiers, each on a line
of its own, four spaces in. A view with content has the content between braces, four spaces in. The
modifiers come in a fixed order: those of the kind of view, then the space above, then those that
come from constraints.

Only two things cannot be written: a control of unknown kind, and a spacer whose height has no
integer part. Of several such components in a tree the first one counts.
-/
namespace Storyboard.Swift

open Storyboard.Layout
open Storyboard.Number (Binary64)
open Storyboard.Text

abbrev Written := Except Failure

/-- Mirrors `swift_bool`. -/
def boolText (b : Bool) : String := if b then "true" else "false"

/-- A text between double quotes, as it is. -/
def literal (s : String) : String := "\"" ++ s ++ "\""

/-- A view with content between braces. Mirrors `_block`. -/
def block (head content : String) : String :=
  if content.isEmpty then head ++ " \x7b\n\x7d"
  else head ++ " \x7b\n" ++ indent 4 content ++ "\n\x7d"

/-- The modifiers of a view in their order: its own, the space above, those from constraints. -/
def allModifiers (fixed : List String) (top : Option Int) (constraints : String) : List String :=
  fixed ++ (top.map fun n => ".padding(.top, " ++ toString n ++ ")").toList ++
    inkedLines constraints

/-- A view with its modifiers behind it. Mirrors `_apply_modifiers`. -/
def withModifiers (body : String) (modifiers : List String) : String :=
  if modifiers.isEmpty then body else body ++ "\n" ++ indent 4 ("\n".intercalate modifiers)

/-- The content of a picker: a view for each option, chosen by its number. -/
def optionLoop (options : List String) : String :=
  "ForEach(0..<" ++ toString options.length ++ ", id: \\.self) \x7b index in\n" ++
    indent 4 ("Text([" ++ ", ".intercalate (options.map literal) ++ "][index])") ++ "\n\x7d"

/-- The view that a control is, without modifiers.
Mirrors `_label`, `_button` and so on to `_scroll_view`. -/
def viewOf : Control → Written String
  | .label text => .ok ("Text(" ++ literal text ++ ")")
  | .button title =>
    .ok (block ("Button(action: \x7b print(" ++ literal (title ++ " tapped!") ++ ") \x7d)")
      ("Text(" ++ literal title ++ ")"))
  | .textField placeholder =>
    .ok ("TextField(" ++ literal placeholder ++ ", text: .constant(\"\"))")
  | .image name => .ok ("Image(" ++ literal name ++ ")")
  | .textView text => .ok ("TextEditor(text: .constant(" ++ literal text ++ "))")
  | .slider value => .ok ("Slider(value: .constant(" ++ value.text ++ "), in: 0...100)")
  | .toggle isOn =>
    .ok (block ("Toggle(isOn: .constant(" ++ boolText isOn ++ "))") "Text(\"Toggle\")")
  | .picker options =>
    .ok (block "Picker(\"Select\", selection: .constant(0))" (optionLoop options))
  | .datePicker timestamp =>
    .ok ("DatePicker(\"Select Date\", selection: .constant(Date(timeIntervalSince1970: " ++
      timestamp.text ++ ")))")
  | .table => .ok (block "List" "")
  | .scroll => .ok (block "ScrollView" "")
  | .unknown => .error .noView

/-- The modifiers that every control of a kind has. -/
def fixedModifiers : Control → List String
  | .textField _ => [".textFieldStyle(.roundedBorder)"]
  | .image _ => [".resizable()", ".scaledToFit()"]
  | .picker _ => [".pickerStyle(.wheel)"]
  | .datePicker _ => [".datePickerStyle(.compact)"]
  | .table => [".listStyle(.plain)"]
  | _ => []

def stackName : Axis → String
  | .horizontal => "HStack"
  | .vertical => "VStack"

/-- The integer part of a number, where one is written. -/
def integerPart (x : Binary64) : Written Int :=
  match x.truncate with
  | .ok n => .ok n
  | .error cause => .error (.noInteger cause)

mutual

/-- A component as a view expression, `top` points below the one before it.
Mirrors `render_component`, with `_h_stack`, `_v_stack` and `_spacer`. -/
def expression (top : Option Int) : Component → Written String
  | .control kind p => do
    return withModifiers (← viewOf kind) (allModifiers (fixedModifiers kind) top p.constraints)
  | .stack axis p children => do
    return withModifiers
      (block (stackName axis) ("\n".intercalate (← expressions children)))
      (allModifiers [] top p.constraints)
  | .spacer height _ => do
    return "Spacer().padding(.vertical, " ++ toString (← integerPart height) ++ ")"

/-- The children of a stack, none of which has space above. Mirrors `_render_children`. -/
def expressions : List Component → Written (List String)
  | [] => return []
  | c :: rest => return (← expression none c) :: (← expressions rest)

end

end Storyboard.Swift
