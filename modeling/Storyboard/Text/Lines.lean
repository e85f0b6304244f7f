import Storyboard.Text.Blank
/-!
# Lines

A text is cut into lines at ten kinds of line break, a carriage return with its line feed counting
as one; a break at the very end opens no further line. Lines are put together again with line feeds
only, so indenting a text also makes all its breaks alike.

Two ways of indenting are in use. `indent` pads each line that is not blank, the first included.
`hang` leaves the first line where it is and pads each further line that is not empty, blank lines
included.
-/
namespace Storyboard.Text

/-- Line feed, vertical tab, form feed, carriage return, the three separators above the unit
separator, next line, and the line and paragraph separators. -/
def isLineBreak (c : Char) : Bool :=
  inRanges [(0x0A, 0x0D), (0x1C, 0x1E), (0x85, 0x85), (0x2028, 0x2029)] c

/-- Puts a character in front of the first line. -/
def consFirst (c : Char) : List (List Char) → List (List Char)
  | [] => [[c]]
  | line :: rest => (c :: line) :: rest

/-- The lines of a text, without their breaks. -/
def lines : List Char → List (List Char)
  | [] => []
  | '\r' :: '\n' :: rest => [] :: lines rest
  | c :: rest => if isLineBreak c then [] :: lines rest else consFirst c (lines rest)

/-- Lines with a line feed between neighbours. -/
def joinLines (ls : List (List Char)) : List Char := ['\n'].intercalate ls

def spaces (n : Nat) : List Char := List.replicate n ' '

/-- A line behind `n` spaces, unless it is blank. -/
def padLine (n : Nat) (line : List Char) : List Char :=
  if isBlankText line then line else spaces n ++ line

def indentChars (n : Nat) (s : List Char) : List Char := joinLines ((lines s).map (padLine n))

/-- Each line of the text that is not blank, `n` spaces to the right. Mirrors `indent`. -/
def indent (n : Nat) (s : String) : String := String.ofList (indentChars n s.toList)

/-- A further line of a hanging text: padded unless it is empty. -/
def hangLine (n : Nat) (line : List Char) : List Char :=
  if line.isEmpty then line else spaces n ++ line

def hangChars (n : Nat) (s : List Char) : List Char :=
  match lines (s ++ ['\n']) with
  | [] => []
  | first :: rest => joinLines (first :: rest.map (hangLine n))

/-- The text with every line but the first `n` spaces to the right.
Mirrors the filter `indent` of the templates. -/
def hang (n : Nat) (s : String) : String := String.ofList (hangChars n s.toList)

/-- The lines of a text that are not blank. -/
def inkedLines (s : String) : List String :=
  ((lines s.toList).filter fun line => !isBlankText line).map String.ofList

/-- Lines, each with its line feed. -/
def linesText (ls : List String) : String := String.join (ls.map (· ++ "\n"))

end Storyboard.Text
