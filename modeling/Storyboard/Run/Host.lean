import Storyboard.Disk.Tree
import Storyboard.Conversion.Notice
import Storyboard.Number.Binary64
/-!
# Hosts

What a run asks of its surroundings: files, environment, time, and a terminal. A run is written for
any host, so that one and the same run works on the machine and on a disk that is a value.
-/
namespace Storyboard

open Storyboard.Number (Binary64)

/-- A local time. -/
structure Timestamp where
  year : Nat
  month : Nat
  day : Nat
  hour : Nat
  minute : Nat
  second : Nat
  deriving Repr, DecidableEq

/-- A number with at least two digits. -/
def twoDigits (n : Nat) : String := if n < 10 then "0" ++ toString n else toString n

/-- The time as part of a folder name. -/
def Timestamp.text (t : Timestamp) : String :=
  "-".intercalate [toString t.year, twoDigits t.month, twoDigits t.day] ++ "_" ++
    "-".intercalate [twoDigits t.hour, twoDigits t.minute, twoDigits t.second]

inductive EntryKind where
  | directory
  | file
  deriving Repr, DecidableEq

/-- What a run asks of its surroundings. What the system can refuse is answered with a fault. -/
structure Host (m : Type → Type) where
  /-- What a path leads to, if anything. -/
  kind? : String → m (Option EntryKind)
  read : String → m (Except Disk.Fault (List UInt8))
  write : String → List UInt8 → m (Except Disk.Fault Unit)
  makeDirectory : String → m (Except Disk.Fault Unit)
  /-- Do two paths lead to one file? -/
  sameFile : String → String → m Bool
  /-- The working directory, which may be gone. -/
  workingDirectory : m (Except Disk.Fault String)
  environment? : String → m (Option String)
  /-- The home directory of the user by the records of the system, if these know the user. -/
  recordedHome? : m (Option String)
  localTime : m Timestamp
  /-- The seconds since the start of 1970. -/
  now : m Binary64
  /-- A line of input without its end, if there is one. -/
  line? : m (Except Disk.Fault (Option String))
  /-- Writes to standard output, which may be full. -/
  print : String → m (Except Disk.Fault Unit)
  /-- Writes to the error output. -/
  complain : String → m Unit
  /-- Writes a notice to the error output. -/
  report : Notice → m Unit

end Storyboard
