import Storyboard.Markup.Fault
/-!
# Logs of faults

A reading keeps a log of the faults it meets, and the log decides what becomes of the document. A
fatal fault refuses it. Otherwise the last fault decides: a document is refused for an error that
nothing follows, but a warning behind the error lets it pass.

A log takes a hundred warnings and a hundred graver faults, and beyond them only the first fatal
one.
-/
namespace Storyboard.Markup

/-- The faults met so far, the last one first. -/
structure Log where
  faults : List Fault
  deriving Repr, DecidableEq

namespace Log

def empty : Log := ⟨[]⟩

/-- Is there no fatal fault? -/
def isSound (log : Log) : Bool := log.faults.all (·.gravity != .fatal)

/-- Is there nothing beyond warnings? -/
def isMild (log : Log) : Bool := log.faults.all (·.gravity == .warning)

def capacity : Nat := 100

/-- Has the log room for one more fault of this gravity? -/
def hasRoom (log : Log) (gravity : Gravity) : Bool :=
  let warnings := log.faults.countP (·.gravity == .warning)
  match gravity with
  | .warning => warnings < capacity
  | .error => log.faults.length - warnings < capacity
  | .fatal => log.faults.length - warnings < capacity || log.isSound

def add (log : Log) (fault : Fault) : Log :=
  if log.hasRoom fault.gravity then ⟨fault :: log.faults⟩ else log

/-- Why a document with this log is refused, if it is. -/
def refusal? (log : Log) : Option Fault :=
  match log.faults with
  | [] => none
  | last :: _ => if log.isSound && last.gravity == .warning then none else some last

end Log

end Storyboard.Markup
