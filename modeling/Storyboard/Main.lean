import Std.Time.Format
import Storyboard.Run.CommandLine
/-!
# The program

The machine as a host, and the run that the program is.
-/
namespace Storyboard

open Storyboard.Number (Binary64)

/-- The fault that an error of the machine is. -/
def faultOf : IO.Error → Disk.Fault
  | .noFileOrDirectory .. => .missing
  | .alreadyExists .. => .exists
  | .permissionDenied .. => .denied
  | .resourceExhausted .. => .noSpace
  | .inappropriateType _ 20 _ => .notDirectory
  | .inappropriateType .. => .isDirectory
  | .invalidArgument _ 36 _ => .nameTooLong
  | .illegalOperation 21 _ => .isDirectory
  | _ => .inputOutput

/-- An action with the fault that ended it, if one did. -/
def faulting {α : Type} (action : IO α) : IO (Except Disk.Fault α) := do
  match ← action.toBaseIO with
  | .ok a => return .ok a
  | .error e => return .error (faultOf e)

def kindOnMachine (path : String) : IO (Option EntryKind) := do
  try
    let place ← IO.FS.realPath path
    return some (if (← place.metadata).type == .dir then .directory else .file)
  catch _ => return none

def sameOnMachine (a b : String) : IO Bool := do
  try
    return (← IO.FS.realPath a) == (← IO.FS.realPath b)
  catch _ => return false

def localTimeOnMachine : IO Timestamp := do
  let now ← Std.Time.PlainDateTime.now
  return ⟨now.date.year.toInt.toNat, now.date.month.val.toNat, now.date.day.val.toNat,
    now.time.hour.val.toNat, now.time.minute.val.toNat, now.time.second.val.toNat⟩

/-- The seconds since the start of 1970, to the millisecond. -/
def nowOnMachine : IO Binary64 := do
  let now ← Std.Time.Timestamp.now
  return .ofDecimal false now.toMillisecondsSinceUnixEpoch.val.toNat (-3)

/-- A line of standard input without its end, if there is one. -/
def lineOnMachine : IO (Option String) := do
  let line ← (← IO.getStdin).getLine
  return if line.isEmpty then none
    else some (String.ofList (line.toList.takeWhile (· != '\n')))

/-- The home directory of the user in the list of users, where the user stands by number. -/
def recordedHomeOnMachine : IO (Option String) := do
  try
    let status ← IO.FS.lines "/proc/self/status"
    let users ← IO.FS.lines "/etc/passwd"
    let number := (status.toList.find? (·.startsWith "Uid:")).bind fun line =>
      (line.splitOn "\t")[1]?
    return users.toList.findSome? fun line =>
      match line.splitOn ":" with
      | [_, _, user, _, _, home, _] => if number = some user then some home else none
      | _ => none
  catch _ => return none

/-- The machine as a host. -/
def machine : Host IO where
  kind? := kindOnMachine
  read path := faulting do return (← IO.FS.readBinFile path).toList
  write path content := faulting (IO.FS.writeBinFile path ⟨content.toArray⟩)
  makeDirectory path := faulting (IO.FS.createDir path)
  sameFile := sameOnMachine
  workingDirectory := faulting do return (← IO.currentDir).toString
  environment? name := IO.getEnv name
  recordedHome? := recordedHomeOnMachine
  localTime := localTimeOnMachine
  now := nowOnMachine
  line? := faulting lineOnMachine
  print text := faulting do
    IO.print text
    (← IO.getStdout).flush
  complain text := IO.eprint text
  report n := IO.eprintln n.line

/-- The exit code of a run; a failure is reported. -/
def exitCode : Ending → IO UInt32
  | .atArguments code => return code.toUInt32
  | .finished code => return code.toUInt32
  | .failed cause => do
    IO.eprintln cause.text
    return 1

end Storyboard

def main (arguments : List String) : IO UInt32 := do
  Storyboard.exitCode (← Storyboard.run Storyboard.machine arguments)
