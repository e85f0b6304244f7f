import Storyboard.Text.Blank
/-!
# Characters of markup

Which characters a document may hold at all, which count as space between its parts, and which make
up names.
-/
namespace Storyboard.Markup

open Storyboard.Text (inRanges)

/-- Tab, line feed, carriage return, and everything from the space on but U+FFFE and U+FFFF. -/
def isLegal (c : Char) : Bool :=
  inRanges [(0x09, 0x0A), (0x0D, 0x0D), (0x20, 0xFFFD), (0x10000, 0x10FFFF)] c

def isSpace (c : Char) : Bool := c == ' ' || c == '\t' || c == '\n' || c == '\r'

def nameStartRanges : List (Nat × Nat) :=
  [(0x3A, 0x3A), (0x41, 0x5A), (0x5F, 0x5F), (0x61, 0x7A), (0xC0, 0xD6), (0xD8, 0xF6),
    (0xF8, 0x2FF), (0x370, 0x37D), (0x37F, 0x1FFF), (0x200C, 0x200D), (0x2070, 0x218F),
    (0x2C00, 0x2FEF), (0x3001, 0xD7FF), (0xF900, 0xFDCF), (0xFDF0, 0xFFFD), (0x10000, 0xEFFFF)]

/-- Can the character begin a name? The colon can. -/
def isNameStart (c : Char) : Bool := inRanges nameStartRanges c

/-- Can the character go on with a name? -/
def isNameCharacter (c : Char) : Bool :=
  isNameStart c ||
    inRanges [(0x2D, 0x2E), (0x30, 0x39), (0xB7, 0xB7), (0x300, 0x36F), (0x203F, 0x2040)] c

/-- A whole text that is one name. -/
def isName : List Char → Bool
  | [] => false
  | c :: rest => isNameStart c && rest.all isNameCharacter

/-- A name without a colon. -/
def isPlainName (s : List Char) : Bool := isName s && !s.contains ':'

/-- A whole text that is one word: characters of names in any order. -/
def isWord (s : List Char) : Bool := !s.isEmpty && s.all isNameCharacter

/-- The name at the head of a text, empty if there is none, and the rest. -/
def nameFrom (s : List Char) : List Char × List Char :=
  match s with
  | [] => ([], [])
  | c :: _ =>
    if isNameStart c then (s.takeWhile isNameCharacter, s.dropWhile isNameCharacter) else ([], s)

/-- Line ends are line feeds: a carriage return, with its line feed if there is one, becomes one. -/
def unifyLineEnds : List Char → List Char
  | [] => []
  | '\r' :: '\n' :: rest => '\n' :: unifyLineEnds rest
  | c :: rest => (if c = '\r' then '\n' else c) :: unifyLineEnds rest

end Storyboard.Markup
