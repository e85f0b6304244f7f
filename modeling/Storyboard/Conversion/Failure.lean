import Storyboard.Number.Numeral
import Storyboard.Text.Quoted
/-!
# What can end a conversion

Besides a document that cannot be read, three things can end a conversion: a numeral that cannot be
converted, a number without an integer part where an integer is written, and a component that there
is no view for.
-/
namespace Storyboard

open Storyboard.Number

inductive Failure where
  | unconvertible (cause : Unconvertible)
  | noInteger (cause : Binary64.NoInteger)
  | noView
  deriving Repr, DecidableEq

def Failure.text : Failure → String
  | .unconvertible ⟨text⟩ => "could not convert string to float: " ++ Text.quoted text
  | .noInteger .infinite => "cannot convert float infinity to integer"
  | .noInteger .undefined => "cannot convert float NaN to integer"
  | .noView => "No SwiftUI renderer for Unknown"

end Storyboard
