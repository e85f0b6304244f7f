import Storyboard.Number.Binary64
import Storyboard.Text.Blank
import Storyboard.Text.DecimalDigit
/-!
# Reading numerals

A numeral is a sign (or none), digits with an optional fraction or a fraction alone, and an optional
exponent, between blanks; the digits may be of any script. Any other text is no numeral, which is
not a fault: `Numeral.read` then answers `none`. A numeral next to an information separator is one
by its form and yet cannot be converted.

A literal (`literal`) is a numeral whose digits may be held together by underscores, or the name of
an infinite or undefined number. Here any other text is a fault.
-/
namespace Storyboard.Number

open Storyboard.Text

/-- A numeral by its parts. -/
structure Numeral where
  negative : Bool
  whole : List Char
  fraction : List Char
  exponent : Int
  deriving Repr, DecidableEq

/-- A text that has the form of a numeral and cannot be converted. -/
structure Unconvertible where
  text : String
  deriving Repr, DecidableEq

namespace Numeral

/-- Splits off a leading sign. -/
def takeSign : List Char → Bool × List Char
  | '-' :: rest => (true, rest)
  | '+' :: rest => (false, rest)
  | s => (false, s)

/-- Splits off the leading decimal digits. -/
def takeDigits (s : List Char) : List Char × List Char :=
  (s.takeWhile isDecimalDigit, s.dropWhile isDecimalDigit)

/-- Splits off an exponent, if a whole one is there. -/
def takeExponent : List Char → Int × List Char
  | [] => (0, [])
  | c :: rest =>
    if c = 'e' ∨ c = 'E' then
      let (negative, afterSign) := takeSign rest
      match takeDigits afterSign with
      | ([], _) => (0, c :: rest)
      | (ds, tail) =>
        (if negative then -(digitsValue 0 ds : Int) else digitsValue 0 ds, tail)
    else (0, c :: rest)

/-- Splits off a fraction behind its point. -/
def takeFraction : List Char → List Char × List Char
  | '.' :: rest => takeDigits rest
  | s => ([], s)

/-- The numeral at the head of a text without leading blanks, and what follows it. -/
def takeFrom (s : List Char) : Option (Numeral × List Char) :=
  let (negative, afterSign) := takeSign s
  let (whole, afterWhole) := takeDigits afterSign
  let (fraction, afterFraction) := takeFraction afterWhole
  if whole.isEmpty && fraction.isEmpty then none
  else
    let (exponent, rest) := takeExponent afterFraction
    some (⟨negative, whole, fraction, exponent⟩, rest)

/-- The numeral that a text consists of, between blanks. -/
def ofChars? (s : List Char) : Option Numeral :=
  match takeFrom (s.dropWhile isBlank) with
  | some (numeral, rest) => if isBlankText rest then some numeral else none
  | none => none

/-- The number nearest to what the numeral says. -/
def value (n : Numeral) : Binary64 :=
  .ofDecimal n.negative (digitsValue 0 (n.whole ++ n.fraction)) (n.exponent - n.fraction.length)

/-- The number that a text denotes, `none` if it is no numeral. -/
def read (text : String) : Except Unconvertible (Option Binary64) :=
  match ofChars? text.toList with
  | none => .ok none
  | some numeral =>
    if text.toList.any isSeparator then .error ⟨text⟩ else .ok (some numeral.value)

/-- The number that a text denotes, or the default if there is no text or it is no numeral.
Mirrors `parse_number`. -/
def readOr (default : Option Binary64) : Option String → Except Unconvertible (Option Binary64)
  | none => .ok default
  | some text => (read text).map fun value => value <|> default

/-- The text without its underscores, if each of them stands between two digits; `behindDigit` tells
what the text stands behind. -/
def withoutUnderscores? (behindDigit : Bool) : List Char → Option (List Char)
  | [] => some []
  | c :: rest =>
    if c = '_' then
      if behindDigit && rest.head?.any isDecimalDigit then withoutUnderscores? false rest else none
    else (withoutUnderscores? (isDecimalDigit c) rest).map (c :: ·)

/-- The number that a name stands for, its letters of either case. -/
def named? (s : List Char) : Option Binary64 :=
  let (negative, name) := takeSign s
  match String.ofList (name.map Char.toLower) with
  | "inf" | "infinity" => some (.infinite negative)
  | "nan" => some .undefined
  | _ => none

/-- The number that a literal denotes. -/
def literal (text : String) : Except Unconvertible Binary64 := do
  let some s := withoutUnderscores? false text.toList | throw ⟨text⟩
  match named? (trimBy isWhiteSpace s) with
  | some value => return value
  | none =>
    match read (String.ofList s) with
    | .ok (some value) => return value
    | _ => throw ⟨text⟩

end Numeral

end Storyboard.Number
