import Storyboard.Run.CommandLine
/-!
# Sessions

A host that is a value: a disk, an environment, a clock that stands still, lines of input, and what
has been written so far. A run on a session is a function from sessions to sessions.

The working directory is a place, and need not be there. If it is gone, no path leads anywhere that does
not start at the top.
-/
namespace Storyboard

open Storyboard.Disk
open Storyboard.Number (Binary64)

/-- A piece of the error output. -/
inductive ErrorLine where
  | notice (n : Notice)
  | text (s : String)
  deriving Repr

/-- The surroundings of a run. -/
structure Session where
  disk : Tree
  working : Place
  environment : List (String × String)
  time : Timestamp
  now : Binary64
  input : List Char
  output : String
  errors : List ErrorLine
  /-- The home directory of the user by the records of the system, if these know the user. -/
  recordedHome : Option String := none
  /-- What stands in the way of reading a line, if anything does. -/
  inputFault : Option Fault := none
  /-- What stands in the way of printing, if anything does. -/
  outputFault : Option Fault := none

namespace Session

/-- A place as a path. -/
def pathOf (place : Place) : String :=
  if place.isEmpty then "/" else String.join (place.map ("/" ++ ·))

/-- The first line of a text and what follows it; none if the text is empty. -/
def takeLine (s : List Char) : Option (String × List Char) :=
  if s.isEmpty then none
  else some (String.ofList (s.takeWhile (· != '\n')), (s.dropWhile (· != '\n')).drop 1)

def kindOf : Entry → EntryKind
  | .directory => .directory
  | .file _ => .file

def kind? (path : String) (s : Session) : Option EntryKind :=
  match s.disk.find s.working path with
  | .ok (_, e) => some (kindOf e)
  | .error _ => none

def sameFile (a b : String) (s : Session) : Bool :=
  match s.disk.find s.working a, s.disk.find s.working b with
  | .ok (p, _), .ok (q, _) => p = q
  | _, _ => false

def write (path : String) (content : List UInt8) (s : Session) :
    Except Disk.Fault Unit × Session :=
  let (result, disk) := s.disk.write s.working path content
  (result, { s with disk })

def makeDirectory (path : String) (s : Session) : Except Disk.Fault Unit × Session :=
  match s.disk.makeDirectory s.working path with
  | .ok disk => (.ok (), { s with disk })
  | .error fault => (.error fault, s)

/-- The working directory as a path, as long as it is there. -/
def workingDirectory (s : Session) : Except Fault String :=
  if s.disk.entry? s.working = some .directory then .ok (pathOf s.working) else .error .missing

def line? (s : Session) : Except Fault (Option String) × Session :=
  match s.inputFault with
  | some fault => (.error fault, s)
  | none =>
    match takeLine s.input with
    | some (line, input) => (.ok (some line), { s with input })
    | none => (.ok none, s)

def print (text : String) (s : Session) : Except Fault Unit × Session :=
  match s.outputFault with
  | some fault => (.error fault, s)
  | none => (.ok (), { s with output := s.output ++ text })

/-- The host that a session is. -/
def host : Host (StateM Session) where
  kind? path := fun s => (s.kind? path, s)
  read path := fun s => (s.disk.read s.working path, s)
  write path content := Session.write path content
  makeDirectory path := Session.makeDirectory path
  sameFile a b := fun s => (s.sameFile a b, s)
  workingDirectory := fun s => (s.workingDirectory, s)
  environment? name := fun s => (s.environment.lookup name, s)
  recordedHome? := fun s => (s.recordedHome, s)
  localTime := fun s => (s.time, s)
  now := fun s => (s.now, s)
  line? := Session.line?
  print text := Session.print text
  complain text := fun s => ((), { s with errors := s.errors ++ [.text text] })
  report n := fun s => ((), { s with errors := s.errors ++ [.notice n] })

end Session

end Storyboard
