import Storyboard.Layout.Ownership
import Storyboard.Conversion.Settings
import Storyboard.Swift.Expression
/-!
# Spacing

The components of a screen are written one after the other with an empty line between neighbours.
Each one but the first keeps a distance from the one before it: the difference of their positions,
held between the least and the greatest padding. Spacers have no distance of their own and are
passed over when the next component asks for the one before it.
-/
namespace Storyboard.Swift

open Storyboard.Layout
open Storyboard.Number (Binary64)

/-- The space between two positions, held within the bounds of the settings. An undefined difference
counts as the greatest. Mirrors `top_padding_delta`. -/
def topPadding (settings : Settings) (previous current : Binary64) : Written Int :=
  integerPart (Binary64.larger settings.minTopPadding
    (Binary64.smaller settings.maxTopPadding (current - previous)))

/-- The expressions of components in a column, below a component at the position `previous`.
Mirrors the loop of `format_components`. -/
def columnFrom (settings : Settings) (previous : Option Binary64) :
    List Component → Written (List String)
  | [] => return []
  | .spacer height id :: rest =>
    return (← expression none (.spacer height id)) :: (← columnFrom settings previous rest)
  | c :: rest => do
    let top ← match previous with
      | none => pure none
      | some y => some <$> topPadding settings y c.position
    return (← expression top c) :: (← columnFrom settings (some c.position) rest)

/-- The components in a column, written with an empty line between neighbours.
Mirrors `format_components`. -/
def column (settings : Settings) (cs : List Component) : Written String :=
  return "\n\n".intercalate (← columnFrom settings none cs)

/-- The body of a screen: a column of the components that no stack among them draws itself.
Mirrors `_screen_body`. -/
def screenBody (settings : Settings) (cs : List Component) : Written String :=
  column settings (unowned cs)

end Storyboard.Swift
