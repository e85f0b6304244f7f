/-!
# Codings

A coding says how bytes become characters. It takes the bytes step by step from the left. Some
codings go by modes, which bytes that are no characters switch; a coding starts in mode 0.

Decoding stops in front of bytes that are no characters, and in front of a last character of which
bytes are missing.
-/
namespace Storyboard.Markup

/-- What the bytes at the head of a text are: characters, perhaps none, with the bytes behind them
and the mode there; or too few bytes; or no characters at all. -/
inductive Step where
  | taken (characters : List Char) (rest : List UInt8) (mode : Nat)
  | incomplete
  | malformed
  deriving Repr, DecidableEq

/-- A step by the mode and the bytes, of which there is at least one. -/
abbrev Coding := Nat → List UInt8 → Step

/-- A step that takes one character, if that is one. -/
def Step.one (c : Option Char) (rest : List UInt8) (mode : Nat) : Step :=
  match c with
  | some c => .taken [c] rest mode
  | none => .malformed

/-- What bytes were decoded to; `rest` is what was not, and `malformed` says that no further bytes
could help. -/
structure Decoded where
  characters : List Char
  rest : List UInt8
  malformed : Bool
  deriving Repr, DecidableEq

namespace Coding

/-- Decodes bytes in a mode; `acc` holds the characters so far, last first, and `fuel` bounds the
number of steps. -/
def decodeFrom (coding : Coding) (fuel mode : Nat) (acc : List Char) (bytes : List UInt8) :
    Decoded :=
  match fuel, bytes with
  | 0, _ | _, [] => ⟨acc.reverse, bytes, false⟩
  | fuel + 1, b :: bs =>
    match coding mode (b :: bs) with
    | .taken cs rest mode => coding.decodeFrom fuel mode (cs.reverse ++ acc) rest
    | .incomplete => ⟨acc.reverse, b :: bs, false⟩
    | .malformed => ⟨acc.reverse, b :: bs, true⟩

def decode (coding : Coding) (bytes : List UInt8) : Decoded :=
  coding.decodeFrom bytes.length 0 [] bytes

/-! ## Tables -/

/-- A table of characters by number, written in parts. -/
def tableOf (parts : List String) : Array Char := (parts.flatMap String.toList).toArray

/-- What stands in a table where there is no character. -/
def gap : Char := '\ufffd'

/-- So many places of a table without a character. -/
def gaps (n : Nat) : String := String.ofList (List.replicate n gap)

/-- A character that is left to its users, by its number. -/
def privateCharacter (n : Nat) : Char := Char.ofNat (0xE000 + n)

/-- The character in a row and a column of a table, both from 0 on. -/
def cell? (table : Array Char) (columns row column : Nat) : Option Char :=
  if column < columns then (table[row * columns + column]?).filter (· != gap) else none

/-- The character of a number, if it is one. -/
def scalar? (n : Nat) : Option Char := if n.isValidChar then some (Char.ofNat n) else none

/-! ## One byte a character -/

def ascii : Coding := fun mode bytes =>
  match bytes with
  | [] => .incomplete
  | b :: rest => Step.one (if b < 0x80 then some (Char.ofNat b.toNat) else none) rest mode

def latin1 : Coding := fun mode bytes =>
  match bytes with
  | [] => .incomplete
  | b :: rest => .taken [Char.ofNat b.toNat] rest mode

/-- The first 128 bytes are those of ASCII but for some; a table holds the others. -/
def alphabet (changed : List (UInt8 × Char)) (upper : Array Char) : Coding := fun mode bytes =>
  match bytes with
  | [] => .incomplete
  | b :: rest =>
    let c :=
      if b < 0x80 then some ((changed.lookup b).getD (Char.ofNat b.toNat))
      else cell? upper 128 0 (b.toNat - 128)
    Step.one c rest mode

/-- The first 160 bytes are those of Latin-1; a table holds the others. -/
def latinAlphabet (upper : Array Char) : Coding := fun mode bytes =>
  match bytes with
  | [] => .incomplete
  | b :: rest =>
    Step.one (if b < 0xA0 then some (Char.ofNat b.toNat) else cell? upper 96 0 (b.toNat - 160)) rest
      mode

/-! ## Two bytes a character -/

/-- A byte below 128 is ASCII. Two bytes from 161 on are a row and a column of a table. -/
def twoByte (plane : Nat → Nat → Option Char) : Coding := fun mode bytes =>
  match bytes with
  | [] => .incomplete
  | a :: rest =>
    if a < 0x80 then .taken [Char.ofNat a.toNat] rest mode
    else if a < 0xA1 || a = 0xFF then .malformed
    else match rest with
      | [] => .incomplete
      | b :: rest =>
        if b < 0xA1 || b = 0xFF then .malformed
        else Step.one (plane (a.toNat - 0xA1) (b.toNat - 0xA1)) rest mode

/-! ## Letters and their marks -/

/-- How letters join with a mark behind them: each mark with a text in which each letter stands in
front of what the two make. -/
abbrev Joins := List (Char × List Char)

/-- What a letter makes with a mark. -/
def joined? (joins : Joins) (letter mark : Char) : Option Char :=
  let rec find : List Char → Option Char
    | a :: made :: rest => if a = letter then some made else find rest
    | _ => none
  (joins.lookup mark).bind find

/-- Joins the marks of a text with the letters in front of them; `acc` is what comes before, last
first. -/
def joinMarks (joins : Joins) (acc : List Char) : List Char → List Char
  | [] => acc.reverse
  | c :: rest =>
    match acc with
    | [] => joinMarks joins [c] rest
    | letter :: before =>
      match joined? joins letter c with
      | some made => joinMarks joins (made :: before) rest
      | none => joinMarks joins (c :: acc) rest

end Coding

end Storyboard.Markup
