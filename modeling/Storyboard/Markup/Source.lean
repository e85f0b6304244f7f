import Storyboard.Markup.Character
/-!
# Sources

The characters of a document as far as its bytes could be decoded. A byte that could not be is
either marked where it stands, in an encoding that goes on behind it, or the source ends in front of
it. A marked byte is no character; in text it counts as one all the same, since what is wrong with
it is reported only once and not as a fault of the markup.
-/
namespace Storyboard.Markup

/-- What stands for a byte that could not be decoded. No document may hold the character itself. -/
def damageMark : Char := '\ufffe'

/-- What stands for a character that may not occur, so that none is taken for a damage mark. -/
def illegalMark : Char := '\uffff'

structure Source where
  characters : List Char
  /-- The number of bytes. -/
  size : Nat
  /-- How many characters are left when it turns out that the source ends in front of a byte that
  could not be decoded; none if it does not. -/
  cutOff : Option Nat
  /-- Does the source end inside a character? -/
  truncated : Bool
  /-- The encoding that is asked for, if it is not known. -/
  unknownEncoding : Option String
  deriving Repr, DecidableEq

/-- Is a byte marked that could not be decoded? -/
def Source.isDamaged (s : Source) : Bool := s.characters.contains damageMark

end Storyboard.Markup
