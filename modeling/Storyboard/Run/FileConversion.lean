import Storyboard.Compression.Gzip
import Storyboard.Conversion.Modes
import Storyboard.Disk.Address
import Storyboard.Run.Host
import Storyboard.Markup.Document
import Storyboard.Text.Utf8
/-!
# Conversion of a file

A file is read, unpacked if it is compressed, and converted; if there is anything to write, an
output folder named for the time is made, the file is copied into it, and the generated files are
written into a directory inside it. A file that cannot be copied or written is reported and does not
stop the others. The exit code is 1 if the file cannot be read, 2 if a generated file could not be
written, and else 0.

A run can also end without an exit code: if the output folder cannot be made or there is no directory to
make it in, if the conversion itself fails, or if a path to copy from or to write to has a NUL in it.
-/
namespace Storyboard

open Storyboard.Markup
open Storyboard.Swift (ViewFile)

/-- What can end a run without an exit code. -/
inductive RunFailure where
  /-- A fault of the system, at a path if it is about one. -/
  | disk (cause : Disk.Fault) (path : Option String)
  /-- There is a NUL in a path. -/
  | nulInPath
  | conversion (cause : Failure)
  | endOfInput
  deriving Repr, DecidableEq

/-- The text of a fault, with the path that it is about. -/
def diskText (cause : Disk.Fault) (path : Option String) : String :=
  "[Errno " ++ toString cause.number ++ "] " ++ cause.text ++
    (path.map fun path => ": " ++ Text.quoted path).getD ""

def RunFailure.text : RunFailure → String
  | .disk cause path => diskText cause path
  | .nulInPath => "embedded null byte"
  | .conversion cause => cause.text
  | .endOfInput => "EOF when reading a line"

abbrev Run (m : Type → Type) := ExceptT RunFailure m

section

variable {m : Type → Type} [Monad m]

/-- Reports a notice unless it is below the level. -/
def report (host : Host m) (level : Severity) (n : Notice) : m Unit :=
  if level.rank ≤ n.severity.rank then host.report n else pure ()

/-- The document in a file. Mirrors `parse_storyboard`. -/
def readDocument (host : Host m) (path : String) : m (Except ReadFailure Document) := do
  match ← host.read (Disk.Path.ofAddress path) with
  | .error cause => return .error (.unopened cause)
  | .ok bytes => return (Document.ofBytes (Compression.unpacked bytes)).mapError .faulty

/-- What a path leads to, if anything. -/
def kindAt? (host : Host m) (path : String) : m (Option EntryKind) :=
  if Disk.Path.hasNul path then return none else host.kind? path

/-- Makes a directory, which may be there already. -/
def makeOneDirectory (host : Host m) (path : String) : Run m Unit := do
  if Disk.Path.hasNul path then throw .nulInPath
  match ← (host.makeDirectory path : m _) with
  | .ok () => return ()
  | .error cause =>
    if (← (host.kind? path : m _)) = some .directory then return () else throw (.disk cause path)

/-- Makes the first directory of a list, each of which stands in the next, and before it those that
are missing. -/
def makeNested (host : Host m) : List String → Run m Unit
  | [] => return ()
  | [path] => makeOneDirectory host path
  | path :: parent :: above => do
    if (← (kindAt? host parent : m _)).isSome then makeOneDirectory host path
    else
      makeNested host (parent :: above)
      if (Disk.Path.parentAndStep path.toList).2 != ['.'] then makeOneDirectory host path

/-- Makes a directory and those above it as far as they are missing. -/
def makeDirectories (host : Host m) (path : String) : Run m Unit :=
  makeNested host (Disk.Path.ancestry path)

/-- Copies a file into a directory, under its own name. The path of the copy is answered, or what
went wrong. -/
def copyInto (host : Host m) (path directory : String) : Run m (Except String String) := do
  if Disk.Path.hasNul path then throw .nulInPath
  let target := Disk.Path.join directory (Disk.Path.baseName path)
  if ← (host.sameFile path target : m _) then
    return .error (Text.quoted path ++ " and " ++ Text.quoted target ++ " are the same file")
  else
    match ← (host.read path : m _) with
    | .error cause => return .error (diskText cause path)
    | .ok bytes =>
      match ← (host.write target bytes : m _) with
      | .error cause => return .error (diskText cause target)
      | .ok () => return .ok target

/-- Puts a file into a directory, which is made if it is missing.
Mirrors what `write_unit` tries. -/
def putFile (host : Host m) (directory path : String) (content : List UInt8) : Run m Unit := do
  makeDirectories host directory
  match ← (host.write path content : m (Except Disk.Fault Unit)) with
  | .ok () => return ()
  | .error cause => throw (.disk cause path)

/-- Writes a generated file and reports it. A fault of the disk is reported too.
Mirrors `write_unit`. -/
def writeFile (host : Host m) (level : Severity) (directory : String) (file : ViewFile) :
    Run m Bool := do
  let path := Disk.Path.join directory file.fileName
  try
    putFile host directory path (Text.utf8 file.text)
    (report host level (.generated path) : m Unit)
    return true
  catch
    | .disk cause place =>
      (report host level (.writeFailed path (diskText cause place)) : m Unit)
      return false
    | failure => throw failure

/-- A path without slashes at its end, unless it is the top. -/
def withoutLastSlashes (path : String) : String :=
  let trimmed := (path.toList.reverse.dropWhile (· == '/')).reverse
  if trimmed.isEmpty then "/" else String.ofList trimmed

/-- The home directory by the environment, or else by the records of the system; a tilde stays as it is
if neither knows one. -/
def homeDirectory (host : Host m) : m String := do
  match ← host.environment? "HOME" with
  | some home => return withoutLastSlashes home
  | none => return ((← host.recordedHome?).map withoutLastSlashes).getD "~"

/-- Where output folders go if nothing else is settled: the downloads, if there are any, or the
working directory. -/
def standardRoot (host : Host m) : Run m String := do
  let downloads := Disk.Path.join (← (homeDirectory host : m String)) "Downloads"
  if (← (kindAt? host downloads : m _)) = some .directory then return downloads
  match ← (host.workingDirectory : m _) with
  | .ok path => return path
  | .error cause => throw (.disk cause none)

/-- Makes the output folder. Mirrors `make_destination_folder`. -/
def makeFolder (host : Host m) (settings : Settings) (root : Option String) : Run m String := do
  let root ← match root.filter (· != "") with
    | some root => pure root
    | none => standardRoot host
  let stamp := (← (host.localTime : m Timestamp)).text
  let folder := Disk.Path.join root (settings.folderStem ++ stamp)
  makeDirectories host folder
  return folder

/-- Converts a document, reporting its notices. Mirrors the call of `convert_root`. -/
def convertReported (host : Host m) (level : Severity) (settings : Settings) (d : Document) :
    Run m (List ViewFile) := do
  let converted := convert settings (← host.now) d
  for n in converted.notices do (report host level n : m Unit)
  match converted.result with
  | .ok files => return files
  | .error cause => throw (.conversion cause)

/-- Puts the generated files, and perhaps a copy of the file they come from, into a new output
folder. Mirrors what `convert_storyboard` does with its units. -/
def writeAll (host : Host m) (level : Severity) (settings : Settings) (path : String)
    (root : Option String) (copyInput : Bool) (files : List ViewFile) : Run m Nat := do
  let folder ← makeFolder host settings root
  if copyInput then
    match ← copyInto host path folder with
    | .ok copy => (report host level (.copied copy) : m Unit)
    | .error reason => (report host level (.copyFailed reason) : m Unit)
  let directory := Disk.Path.join folder settings.generatedDirectory
  let written ← files.mapM (writeFile host level directory)
  return if written.all id then 0 else 2

/-- Converts a file. The exit code is answered. Mirrors `convert_storyboard`. -/
def convertFile (host : Host m) (level : Severity) (settings : Settings) (path : String)
    (root : Option String) (copyInput : Bool) : Run m Nat := do
  match ← (readDocument host path : m _) with
  | .error cause =>
    (report host level (.parseFailed path cause) : m Unit)
    return 1
  | .ok d =>
    (report host level (.parsed path d.root.name) : m Unit)
    let files ← convertReported host level settings d
    if files.isEmpty then
      (report host level .nothingGenerated : m Unit)
      return 0
    else
      writeAll host level settings path ((root.filter (· != "")) <|> settings.outputRoot) copyInput
        files

end

end Storyboard
