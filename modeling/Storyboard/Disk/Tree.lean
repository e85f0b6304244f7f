import Storyboard.Disk.Path
/-!
# Disks

A disk holds files and directories at places; a place is the list of names on the way down from the
top. The top itself is always a directory, and nothing else is there but what the disk lists. Some
places may be faulty: what is written to a faulty place is lost, though the file is there.
-/
namespace Storyboard.Disk

abbrev Place := List String

inductive Entry where
  | directory
  | file (content : List UInt8)
  deriving Repr, DecidableEq

/-- What can stand in the way of an operation. -/
inductive Fault where
  | missing
  | inputOutput
  | denied
  | exists
  | notDirectory
  | isDirectory
  | noSpace
  | nameTooLong
  deriving Repr, DecidableEq

/-- The number a fault is known by. -/
def Fault.number : Fault → Nat
  | .missing => 2
  | .inputOutput => 5
  | .denied => 13
  | .exists => 17
  | .notDirectory => 20
  | .isDirectory => 21
  | .noSpace => 28
  | .nameTooLong => 36

def Fault.text : Fault → String
  | .missing => "No such file or directory"
  | .inputOutput => "Input/output error"
  | .denied => "Permission denied"
  | .exists => "File exists"
  | .notDirectory => "Not a directory"
  | .isDirectory => "Is a directory"
  | .noSpace => "No space left on device"
  | .nameTooLong => "File name too long"

structure Tree where
  entries : List (Place × Entry)
  faulty : List Place
  deriving Repr, DecidableEq

namespace Tree

def entry? (t : Tree) (place : Place) : Option Entry :=
  if place = [] then some .directory else t.entries.lookup place

/-- Puts an entry at a place, in the stead of what was there. -/
def put (t : Tree) (place : Place) (e : Entry) : Tree :=
  if (t.entries.lookup place).isSome then
    { t with entries := t.entries.map fun old => if old.1 = place then (place, e) else old }
  else { t with entries := t.entries ++ [(place, e)] }

/-- Is there a directory at the place? -/
def checkDirectory (t : Tree) (place : Place) : Except Fault Unit :=
  match t.entry? place with
  | some .directory => .ok ()
  | some (.file _) => .error .notDirectory
  | none => .error .missing

/-- The longest name of a file or directory, in bytes. -/
def longestName : Nat := 255

/-- The longest path, in bytes. -/
def longestPath : Nat := 4095

/-- Where steps lead from a place. Each step but the first starts from a directory that is there;
the last one may lead to a place where nothing is. -/
def walk (t : Tree) (place : Place) : List (List Char) → Except Fault Place
  | [] => .ok place
  | step :: rest => do
    t.checkDirectory place
    if step = [] ∨ step = ['.'] then t.walk place rest
    else if step = ['.', '.'] then t.walk place.dropLast rest
    else
      let name := String.ofList step
      if longestName < name.utf8ByteSize then throw .nameTooLong
      else t.walk (place ++ [name]) rest

/-- A place that a path leads to; `slashed` tells that the path ends with a slash, which only a
directory may. -/
structure Target where
  place : Place
  slashed : Bool
  deriving Repr, DecidableEq

/-- Where a path leads from a working directory. -/
def locate (t : Tree) (working : Place) (path : String) : Except Fault Target :=
  if path.isEmpty then .error .missing
  else if longestPath < path.utf8ByteSize then .error .nameTooLong
  else do
    let chars := path.toList
    let start := if chars.head? = some '/' then [] else working
    let slashed := chars.getLast? = some '/'
    let steps := (Path.steps chars).filter (· != [])
    return ⟨← t.walk start steps, slashed⟩

/-- What a path leads to, if anything. -/
def find (t : Tree) (working : Place) (path : String) : Except Fault (Place × Entry) := do
  let target ← t.locate working path
  match t.entry? target.place with
  | none => throw .missing
  | some .directory => return (target.place, .directory)
  | some (.file content) =>
    if target.slashed then throw .notDirectory else return (target.place, .file content)

def read (t : Tree) (working : Place) (path : String) : Except Fault (List UInt8) := do
  match ← t.find working path with
  | (_, .directory) => throw .isDirectory
  | (_, .file content) => return content

/-- Makes a directory where nothing is yet. -/
def makeDirectory (t : Tree) (working : Place) (path : String) : Except Fault Tree := do
  let target ← t.locate working path
  if (t.entry? target.place).isSome then throw .exists
  else return t.put target.place .directory

/-- Writes a file, a new one or in the stead of one that was there. The fault, if there is one,
comes with the disk as it is then. -/
def write (t : Tree) (working : Place) (path : String) (content : List UInt8) :
    Except Fault Unit × Tree :=
  match t.locate working path with
  | .error fault => (.error fault, t)
  | .ok target =>
    match t.entry? target.place, target.slashed with
    | some .directory, _ => (.error .isDirectory, t)
    | some (.file _), true => (.error .notDirectory, t)
    | none, true => (.error .isDirectory, t)
    | _, false =>
      if t.faulty.contains target.place then (.error .inputOutput, t.put target.place (.file []))
      else (.ok (), t.put target.place (.file content))

end Tree

end Storyboard.Disk
