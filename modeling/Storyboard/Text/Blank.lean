/-!
# Blank characters

Blank characters are trimmed from the ends of a text, and a line of blanks only counts as empty.
They are the 25 characters of the Unicode property White_Space and the four information separators
U+001C to U+001F. Numerals are stricter: a separator next to a numeral keeps it from
being converted.
-/
namespace Storyboard.Text

/-- Is the character in one of the closed ranges of code points? -/
def inRanges (ranges : List (Nat × Nat)) (c : Char) : Bool :=
  ranges.any fun r => decide (r.1 ≤ c.toNat) && decide (c.toNat ≤ r.2)

/-- The Unicode property White_Space. -/
def whiteSpaceRanges : List (Nat × Nat) :=
  [(0x09, 0x0D), (0x20, 0x20), (0x85, 0x85), (0xA0, 0xA0), (0x1680, 0x1680), (0x2000, 0x200A),
    (0x2028, 0x2029), (0x202F, 0x202F), (0x205F, 0x205F), (0x3000, 0x3000)]

/-- File, group, record and unit separator. -/
def isSeparator (c : Char) : Bool := decide (0x1C ≤ c.toNat) && decide (c.toNat ≤ 0x1F)

/-- White space that may surround a numeral. -/
def isWhiteSpace (c : Char) : Bool := inRanges whiteSpaceRanges c

def isBlank (c : Char) : Bool := isWhiteSpace c || isSeparator c

/-- A text of blanks only, the empty text included. -/
def isBlankText (s : List Char) : Bool := s.all isBlank

/-- The text without such characters at its two ends. -/
def trimBy (p : Char → Bool) (s : List Char) : List Char :=
  ((s.dropWhile p).reverse.dropWhile p).reverse

/-- The text without the blanks at its two ends. -/
def trim (s : List Char) : List Char := trimBy isBlank s

end Storyboard.Text
