import Storyboard.Conversion.Failure
import Storyboard.Conversion.Notice
/-!
# Logged results

A step of a conversion has a result, or the failure that ended it, and either way the notices given
until then. In a sequence of steps the notices add up in order, and nothing follows a failure.
-/
namespace Storyboard

structure Logged (α : Type) where
  notices : List Notice
  result : Except Failure α

namespace Logged

def pure {α : Type} (a : α) : Logged α := ⟨[], .ok a⟩

def bind {α β : Type} (x : Logged α) (f : α → Logged β) : Logged β :=
  match x.result with
  | .error failure => ⟨x.notices, .error failure⟩
  | .ok a =>
    let y := f a
    ⟨x.notices ++ y.notices, y.result⟩

instance : Monad Logged where
  pure := Logged.pure
  bind := Logged.bind

/-- Gives a notice. -/
def note (n : Notice) : Logged Unit := ⟨[n], .ok ()⟩

/-- A result without notices. -/
def lift {α : Type} (x : Except Failure α) : Logged α := ⟨[], x⟩

end Logged

end Storyboard
