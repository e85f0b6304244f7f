import Storyboard.Markup.Character
import Storyboard.Markup.Fault
import Storyboard.Text.Radix
/-!
# References

Text and values hold references: a character by its number, one of the five predefined entities, or
an entity that the document declares. A numbered character is one character whatever it is, so a
space or an angle bracket that is written by number is text.
-/
namespace Storyboard.Markup

open Storyboard.Text (isDigitOf numberOf)

/-- The legal character of a number. -/
def character? (n : Nat) : Option Char :=
  if n.isValidChar ∧ isLegal (Char.ofNat n) then some (Char.ofNat n) else none

def predefined? (name : String) : Option Char :=
  match name with
  | "lt" => some '<'
  | "gt" => some '>'
  | "amp" => some '&'
  | "apos" => some '\x27'
  | "quot" => some '"'
  | _ => none

/-- What a reference refers to. -/
inductive Referent where
  | character (c : Char)
  | entity (name : String)
  deriving Repr, DecidableEq

/-- What the number behind `&#` refers to, and what follows its semicolon. -/
def numberedFrom (base : Nat) (s : List Char) : Except Fault Referent × List Char :=
  let digits := s.takeWhile (isDigitOf base)
  let fault := .error (.badReference (String.ofList ('#' :: digits)))
  match s.dropWhile (isDigitOf base) with
  | ';' :: rest =>
    match character? (numberOf base digits) with
    | some c => (.ok (.character c), rest)
    | none => (fault, rest)
  | rest => (fault, rest)

/-- What a text behind `&` refers to, and what follows the reference. -/
def referenceFrom (s : List Char) : Except Fault Referent × List Char :=
  match s with
  | '#' :: 'x' :: digits => numberedFrom 16 digits
  | '#' :: digits => numberedFrom 10 digits
  | s =>
    let (name, rest) := nameFrom s
    match name, rest with
    | [], _ => (.error (.badReference ""), rest)
    | name, ';' :: rest => (.ok (.entity (String.ofList name)), rest)
    | name, rest => (.error (.badReference (String.ofList name)), rest)

/-- A part of a text: characters, or a reference to an entity. -/
inductive Part where
  | characters (s : List Char)
  | entity (name : String)
  deriving Repr, DecidableEq

/-- A run of characters, collected last first, as a part. -/
def charactersPart (acc : List Char) : List Part :=
  if acc.isEmpty then [] else [.characters acc.reverse]

def Part.entity? : Part → Option String
  | .characters _ => none
  | .entity name => some name

/-- Cuts the text of an entity at its references, as far as it could stand in an attribute value;
the fault, if any, is what comes next. `acc` holds the run so far, last first, and `fuel` bounds the
number of steps. -/
def partsFrom (fuel : Nat) (acc s : List Char) : List Part × Option Fault :=
  match fuel, s with
  | 0, _ | _, [] => (charactersPart acc, none)
  | fuel + 1, c :: rest =>
    if c = '<' then (charactersPart acc, some .badValue)
    else if c = '&' then
      match referenceFrom rest with
      | (.error fault, _) => (charactersPart acc, some fault)
      | (.ok (.character c), rest) => partsFrom fuel (c :: acc) rest
      | (.ok (.entity name), rest) =>
        match predefined? name with
        | some c => partsFrom fuel (c :: acc) rest
        | none =>
          let (parts, fault) := partsFrom fuel [] rest
          (charactersPart acc ++ .entity name :: parts, fault)
    else partsFrom fuel (c :: acc) rest

/-- The parts of an entity's text inside an attribute value. -/
def partsOf (s : List Char) : List Part × Option Fault := partsFrom s.length [] s

/-- Parts as they are written, with an ampersand that is text written by number. -/
def rawText (parts : List Part) : String :=
  String.join (parts.map fun part =>
    match part with
    | .characters s => String.join (s.map fun c => if c = '&' then "&#38;" else c.toString)
    | .entity name => "&" ++ name ++ ";")

end Storyboard.Markup
