import Storyboard.Layout.Component
import Storyboard.Layout.Modifier
import Storyboard.Number.Numeral
import Storyboard.Sorting
/-!
# Extraction

Which component an element becomes. The name of the element decides; an element of any other name
becomes none. A stack takes in every element below it whose parent is a list of subviews, and so may
hold one component at several places. The screen of an element holds one component for each element
below it, sorted by position.

Numbers are read from attributes; one that has the form of a numeral and cannot be converted ends
the extraction.
-/
namespace Storyboard.Layout

open Storyboard.Markup
open Storyboard.Number

abbrev Extracted := Except Unconvertible

/-! ## Parts of a component -/

/-- The number in an attribute, or the default. -/
def numberIn (e : Element) (name : String) (default : Binary64) : Extracted Binary64 :=
  (Numeral.readOr (some default) (e.attribute? name)).map (·.getD default)

/-- The frame of an element; each number that is missing or no numeral has its own default.
Mirrors `extract_frame`. -/
def frameOf (e : Element) : Extracted Rect :=
  let standard := Rect.standard
  match e.firstChildWith? "rect" [("key", "frame")] with
  | none => .ok standard
  | some rect => do
    return ⟨← numberIn rect "x" standard.x, ← numberIn rect "y" standard.y,
      ← numberIn rect "width" standard.width, ← numberIn rect "height" standard.height⟩

def placementOf (e : Element) : Extracted Placement := do
  return ⟨← frameOf e, constraintLines e, (e.attribute? "id").getD ""⟩

/-- The first text there is. An empty text counts as one. Mirrors `_first_present`. -/
def firstPresent (candidates : List (Option String)) (default : String) : String :=
  (candidates.findSome? id).getD default

/-- The title of a button: its own, or that of its configuration, or that of its normal state.
Mirrors `_button_title`. -/
def buttonTitle (e : Element) : String :=
  firstPresent
    [e.attribute? "title",
      (e.firstChild? "buttonConfiguration").bind (·.attribute? "title"),
      (e.firstChildWith? "state" [("key", "normal")]).bind (·.attribute? "title")]
    "Button"

/-- The text of a text view: an attribute, or the content of a child for it.
Mirrors `_text_view_text`. -/
def textViewText (e : Element) : String :=
  firstPresent
    [e.attribute? "text",
      (e.firstChild? "text").bind Element.text?,
      (e.firstChildWith? "string" [("key", "text")]).bind Element.text?]
    ""

/-- Mirrors `DEFAULT_PICKER_OPTIONS`. -/
def standardOptions : List String := ["Option 1", "Option 2"]

/-- Mirrors `_picker_options`. -/
def pickerOptions (e : Element) : List String :=
  match (e.childrenNamed "pickerOption").filterMap (·.attribute? "title") with
  | [] => standardOptions
  | options => options

/-- The start of 2001, in seconds since the start of 1970. Mirrors `REFERENCE_DATE_OFFSET`. -/
def referenceDate : Binary64 := 978307200

/-- The date of a date picker: a time stamp, or a date counted from the reference date, or now.
Mirrors `_date_timestamp`. -/
def dateOf (now : Binary64) (e : Element) : Extracted Binary64 := do
  match ← Numeral.readOr none (e.attribute? "timestamp") with
  | some timestamp => return timestamp
  | none =>
    let date := e.firstChildWith? "date" [("key", "date")]
    match ← Numeral.readOr none (date.bind (·.attribute? "timeIntervalSinceReferenceDate")) with
    | some interval => return interval + referenceDate
    | none => return now

/-! ## Elements -/

/-- Makes the control that an element of some kind is. -/
abbrev Rule := Binary64 → Element → Extracted Control

/-- The rule for the elements of a name, if they are controls. Mirrors `_SIMPLE_RULES`. -/
def rule? (name : String) : Option Rule :=
  match name with
  | "label" => some fun _ e => return .label ((e.attribute? "text").getD "Label")
  | "button" => some fun _ e => return .button (buttonTitle e)
  | "textField" => some fun _ e => return .textField ((e.attribute? "placeholder").getD "")
  | "imageView" => some fun _ e => return .image ((e.attribute? "image").getD "photo")
  | "textView" => some fun _ e => return .textView (textViewText e)
  | "slider" => some fun _ e => return .slider (← numberIn e "value" 50)
  | "switch" => some fun _ e => return .toggle (e.attribute? "on" == some "YES")
  | "pickerView" => some fun _ e => return .picker (pickerOptions e)
  | "datePicker" => some fun now e => return .datePicker (← dateOf now e)
  | "tableView" => some fun _ _ => return .table
  | "scrollView" => some fun _ _ => return .scroll
  | _ => none

/-- Is the element a stack? -/
def isStackName (name : String) : Bool := name == "stackView"

/-- The axis of a stack: horizontal unless it says otherwise. -/
def axisOf (e : Element) : Axis :=
  if (e.attribute? "axis").getD "horizontal" = "horizontal" then .horizontal else .vertical

mutual

/-- The component that a node is. Mirrors `map_node`, and `_map_stack` with `membersIn`. -/
def componentOf (now : Binary64) : Node → Extracted (Option Component)
  | .element tag children =>
    let e : Element := ⟨tag, children⟩
    if isStackName e.name then do
      let placement ← placementOf e
      return some (.stack (axisOf e) placement (← membersIn now false children))
    else
      match rule? e.name with
      | none => return none
      | some rule => do
        let placement ← placementOf e
        return some (.control (← rule now e) placement)
  | _ => return none

/-- The components below a node whose parent is a list of subviews. -/
def membersBelow (now : Binary64) : Node → Extracted (List Component)
  | .element tag children => membersIn now (tag.name.text == "subviews") children
  | _ => return []

/-- The components at and below the nodes whose parent is a list of subviews; `here` says whether
the nodes' own parent is one. -/
def membersIn (now : Binary64) (here : Bool) : List Node → Extracted (List Component)
  | [] => return []
  | n :: rest => do
    let own ← if here then componentOf now n else pure none
    return own.toList ++ (← membersBelow now n) ++ (← membersIn now here rest)

end

/-- The component that an element is. Mirrors `map_node`. -/
def component? (now : Binary64) (e : Element) : Extracted (Option Component) :=
  componentOf now (.element e.tag e.children)

/-! ## Screens -/

/-- A label that only stands in for a text to come, squeezed to no height.
Mirrors `_is_placeholder_label`. -/
def Component.isPlaceholder (text : String) : Component → Bool
  | .control (.label shown) placement => shown == text && placement.frame.height.le 1
  | _ => false

/-- The components of the elements below a screen, without placeholders, sorted by position;
elements at one position stay in document order. A missing screen has none.
Mirrors `extract_screen_components`. -/
def screenComponents (now : Binary64) (placeholder : String) (screen : Option Site) :
    Extracted (List Component) := do
  let elements := (screen.map Site.descendants).getD []
  let mapped ← elements.mapM fun s => component? now s.element
  let shown := (mapped.filterMap id).filter fun c => !c.isPlaceholder placeholder
  return sorted (fun a b => a.position.lt b.position) shown

end Storyboard.Layout
