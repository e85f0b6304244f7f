import Storyboard.Text.Blank
/-!
# Paths

A path is a text of steps between slashes; one that starts with a slash leads down from the top,
any other from the working directory. An empty step and a dot stay where they are, two dots lead one
directory up.
-/
namespace Storyboard.Disk.Path

/-- The path of `b` as seen from `a`. A path from the top stays as it is. -/
def join (a b : String) : String :=
  if b.toList.head? = some '/' then b
  else if a.isEmpty || a.toList.getLast? = some '/' then a ++ b
  else a ++ "/" ++ b

/-- The characters behind the last slash, and those up to it. -/
def cutLast (s : List Char) : List Char × List Char :=
  let tail := (s.reverse.takeWhile (· != '/')).reverse
  (s.take (s.length - tail.length), tail)

/-- The last step of a path, empty if the path ends with a slash. -/
def baseName (path : String) : String := String.ofList (cutLast path.toList).2

/-- Drops slashes at the end, unless there is nothing else. -/
def dropSlashes (s : List Char) : List Char :=
  if s.all (· == '/') then s else (s.reverse.dropWhile (· == '/')).reverse

/-- The directory of a path and its last step, slashes at the end of the path aside. -/
def parentAndStep (path : List Char) : List Char × List Char :=
  let (head, tail) := cutLast path
  if tail.isEmpty then
    let (head, tail) := cutLast (dropSlashes head)
    (dropSlashes head, tail)
  else (dropSlashes head, tail)

/-- A path, its directory, the directory of that, and so on, as far as each is named; `fuel` bounds
their number. -/
def ancestryFrom : Nat → List Char → List String
  | 0, _ => []
  | fuel + 1, path =>
    let (head, tail) := parentAndStep path
    String.ofList path ::
      (if head.isEmpty || tail.isEmpty then [] else ancestryFrom fuel head)

/-- A path and the directories that it names on its way, the nearest first. -/
def ancestry (path : String) : List String := ancestryFrom (path.length + 1) path.toList

/-- The steps of a path. -/
def steps : List Char → List (List Char)
  | [] => [[]]
  | c :: rest =>
    if c = '/' then [] :: steps rest
    else match steps rest with
      | [] => [[c]]
      | step :: more => (c :: step) :: more

end Storyboard.Disk.Path
