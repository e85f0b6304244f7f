import Storyboard.Number.Shortest
import Storyboard.Text.Quoted
/-!
# Components

What a screen is made of: controls, stacks of components, and vertical space. Controls and stacks
have a frame, constraints and the id of the element they come from; a spacer has a height, which is
also its position, and an id.
-/
namespace Storyboard.Layout

open Storyboard.Number (Binary64)
open Storyboard.Text (quoted quotedList)

/-- Mirrors `Rect`. -/
structure Rect where
  x : Binary64
  y : Binary64
  width : Binary64
  height : Binary64
  deriving Repr, DecidableEq

/-- The frame of an element that states none. -/
def Rect.standard : Rect := ⟨0, 0, 100, 50⟩

/-- Where a component stands: its frame, its constraints as the lines of the modifiers they become,
and the id of its element, empty if it has none. -/
structure Placement where
  frame : Rect
  constraints : String
  id : String
  deriving Repr, DecidableEq

/-- Mirrors the classes `Label` to `ScrollView`. -/
inductive Control where
  | label (text : String)
  | button (title : String)
  | textField (placeholder : String)
  | image (name : String)
  | textView (text : String)
  | slider (value : Binary64)
  | toggle (isOn : Bool)
  | picker (options : List String)
  /-- A date in seconds since the start of 1970. -/
  | datePicker (timestamp : Binary64)
  | table
  | scroll
  /-- A control that there is no view for. -/
  | unknown
  deriving Repr, DecidableEq

inductive Axis where
  | horizontal
  | vertical
  deriving Repr, DecidableEq

/-- Mirrors `Component` and its subclasses. -/
inductive Component where
  | control (kind : Control) (placement : Placement)
  | stack (axis : Axis) (placement : Placement) (children : List Component)
  | spacer (height : Binary64) (id : String)
  deriving Repr

namespace Component

/-- The id of the element that the component comes from. -/
def id : Component → String
  | .control _ p => p.id
  | .stack _ p _ => p.id
  | .spacer _ id => id

/-- Where the component stands on the vertical axis. Mirrors `y_position`. -/
def position : Component → Binary64
  | .control _ p => p.frame.y
  | .stack _ p _ => p.frame.y
  | .spacer height _ => height

end Component

/-! ## Description

Components are described in log lines by their kind and their fields. -/

def Rect.description (r : Rect) : String :=
  "Rect(x=" ++ r.x.text ++ ", y=" ++ r.y.text ++ ", width=" ++ r.width.text ++ ", height=" ++
    r.height.text ++ ")"

/-- The kind of a control, and its own field. -/
def Control.description : Control → String × String
  | .label text => ("Label", "text=" ++ quoted text ++ ", ")
  | .button title => ("Button", "title=" ++ quoted title ++ ", ")
  | .textField placeholder => ("TextField", "placeholder=" ++ quoted placeholder ++ ", ")
  | .image name => ("ImageView", "image_name=" ++ quoted name ++ ", ")
  | .textView text => ("TextView", "text=" ++ quoted text ++ ", ")
  | .slider value => ("Slider", "value=" ++ value.text ++ ", ")
  | .toggle isOn => ("Switch", "is_on=" ++ (if isOn then "True" else "False") ++ ", ")
  | .picker options => ("PickerView", "options=" ++ quotedList options ++ ", ")
  | .datePicker timestamp => ("DatePicker", "timestamp=" ++ timestamp.text ++ ", ")
  | .table => ("TableView", "")
  | .scroll => ("ScrollView", "")
  | .unknown => ("Unknown", "")

def Axis.description : Axis → String
  | .horizontal => "HStack"
  | .vertical => "VStack"

/-- The fields of a placement around the `inner` ones, which stand before the id. -/
def Placement.description (p : Placement) (inner : String) : String :=
  "frame=" ++ p.frame.description ++ ", constraints=" ++ quoted p.constraints ++ inner ++
    ", element_id=" ++ quoted p.id

mutual

def Component.description : Component → String
  | .control kind p =>
    let (name, field) := kind.description
    name ++ "(" ++ field ++ p.description "" ++ ")"
  | .stack axis p children =>
    axis.description ++ "(" ++
      p.description (", children=[" ++ ", ".intercalate (descriptions children) ++ "]") ++ ")"
  | .spacer height id => "Spacer(height=" ++ height.text ++ ", element_id=" ++ quoted id ++ ")"

def descriptions : List Component → List String
  | [] => []
  | c :: rest => c.description :: descriptions rest

end

end Storyboard.Layout
