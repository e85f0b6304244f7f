import Storyboard.Markup.Coding
/-!
# Unicode in wide units

UTF-16 has units of two bytes and writes the numbers beyond them as two surrogates. Units of four
bytes hold any number. UTF-7 is ASCII in which runs of six-bit digits between a plus sign and a
hyphen stand for units of two bytes. In two codings of one byte a character, a backslash can begin
the number of a character.
-/
namespace Storyboard.Markup.Coding

/-- The number that bytes make, the first one the highest. -/
def numberOfBytes (bytes : List UInt8) : Nat := bytes.foldl (fun n b => n * 256 + b.toNat) 0

/-- The unit at the head of a text, and what follows it; none if bytes are missing. -/
def unit? (width : Nat) (bigEndian : Bool) (bytes : List UInt8) : Option (Nat × List UInt8) :=
  let unit := bytes.take width
  if unit.length < width then none
  else some (numberOfBytes (if bigEndian then unit else unit.reverse), bytes.drop width)

def isHighSurrogate (n : Nat) : Bool := 0xD800 ≤ n && n < 0xDC00

def isLowSurrogate (n : Nat) : Bool := 0xDC00 ≤ n && n < 0xE000

/-- The number that two surrogates stand for. -/
def ofSurrogates (high low : Nat) : Nat := 0x10000 + (high - 0xD800) * 0x400 + (low - 0xDC00)

def utf16 (bigEndian : Bool) : Coding := fun mode bytes =>
  match unit? 2 bigEndian bytes with
  | none => .incomplete
  | some (u, rest) =>
    if isHighSurrogate u then
      match unit? 2 bigEndian rest with
      | none => .incomplete
      | some (v, rest) =>
        if isLowSurrogate v then Step.one (scalar? (ofSurrogates u v)) rest mode else .malformed
    else Step.one (scalar? u) rest mode

/-- Units of two bytes without surrogates. -/
def ucs2 (bigEndian : Bool) : Coding := fun mode bytes =>
  match unit? 2 bigEndian bytes with
  | none => .incomplete
  | some (u, rest) => Step.one (scalar? u) rest mode

/-- Units of four bytes. -/
def utf32 (bigEndian : Bool) : Coding := fun mode bytes =>
  match unit? 4 bigEndian bytes with
  | none => .incomplete
  | some (u, rest) => Step.one (scalar? u) rest mode

/-- A coding that a mark at its start may turn around: mode 1 is that of the other order. -/
def marked (ordered : Bool → Coding) (width : Nat) (bigEndian : Bool) : Coding :=
  fun mode bytes =>
    let isBig (mode : Nat) : Bool := if mode = 2 then !bigEndian else bigEndian
    match mode, unit? width true bytes, unit? width false bytes with
    | 0, some (big, rest), some (little, _) =>
      if big = 0xFEFF then .taken [] rest (if bigEndian then 1 else 2)
      else if little = 0xFEFF then .taken [] rest (if bigEndian then 2 else 1)
      else ordered bigEndian 1 bytes
    | mode, _, _ => ordered (isBig mode) mode bytes

/-! ## UTF-7 -/

/-- The value of a six-bit digit. -/
def sixBits? (b : UInt8) : Option Nat :=
  let n := b.toNat
  if 0x41 ≤ n ∧ n ≤ 0x5A then some (n - 0x41)
  else if 0x61 ≤ n ∧ n ≤ 0x7A then some (n - 0x61 + 26)
  else if 0x30 ≤ n ∧ n ≤ 0x39 then some (n - 0x30 + 52)
  else if n = 0x2B then some 62
  else if n = 0x2F then some 63
  else none

/-- The units of two bytes that digits make; the bits left over must not reach a digit and be 0. -/
def unitsOf? (digits : List Nat) : Option (List Nat) :=
  let number := digits.foldl (fun n d => n * 64 + d) 0
  let bits := 6 * digits.length
  let left := bits % 16
  if 6 ≤ left || number % Nat.pow 2 left != 0 then none
  else
    let count := bits / 16
    some ((List.range count).map fun i =>
      number / Nat.pow 2 left / Nat.pow 2 (16 * (count - 1 - i)) % 0x10000)

/-- The characters of units of two bytes. -/
def ofUnits? : List Nat → Option (List Char)
  | [] => some []
  | u :: v :: rest =>
    if isHighSurrogate u then
      if isLowSurrogate v then do
        let c ← scalar? (ofSurrogates u v)
        return c :: (← ofUnits? rest)
      else none
    else do
      let c ← scalar? u
      return c :: (← ofUnits? (v :: rest))
  | [u] => (scalar? u).map ([·])

/-- Characters of ASCII that may not stand for themselves. -/
def isShifted (b : UInt8) : Bool := 0x80 ≤ b || b = 0x5C || b = 0x7E || b = 0x2B

def utf7 : Coding := fun mode bytes =>
  match bytes with
  | [] => .incomplete
  | 0x2B :: 0x2D :: rest => .taken ['+'] rest mode
  | 0x2B :: rest =>
    let digits := rest.takeWhile fun b => (sixBits? b).isSome
    let behind := rest.dropWhile fun b => (sixBits? b).isSome
    let behind := if behind.head? = some 0x2D then behind.tail else behind
    match (unitsOf? (digits.filterMap sixBits?)).bind ofUnits? with
    | some (c :: cs) => .taken (c :: cs) behind mode
    | _ => if rest.isEmpty then .incomplete else .malformed
  | b :: rest =>
    Step.one (if isShifted b then none else some (Char.ofNat b.toNat)) rest mode

/-! ## Numbers behind a backslash -/

/-- The value of a letter or digit as a digit of a number. -/
def wideDigit? (b : UInt8) : Option Nat :=
  let n := b.toNat
  if 0x30 ≤ n ∧ n ≤ 0x39 then some (n - 0x30)
  else if 0x41 ≤ n ∧ n ≤ 0x5A then some (n - 0x41 + 10)
  else if 0x61 ≤ n ∧ n ≤ 0x7A then some (n - 0x61 + 10)
  else none

/-- The number so many digits make at the head of a text, digit over digit, and what follows. -/
def wideNumber? (count : Nat) (bytes : List UInt8) : Option (Nat × List UInt8) :=
  let digits := (bytes.take count).filterMap wideDigit?
  if digits.length < count then none
  else some (digits.foldl (fun n d => (16 * n) ||| d) 0, bytes.drop count)

/-- May bytes that are too few be the beginning of a number? -/
def mayBeNumber (count : Nat) (bytes : List UInt8) : Bool :=
  bytes.length < count && bytes.all fun b => (wideDigit? b).isSome

/-- What a backslash is: itself, unless `number?` finds the character that a number means. -/
def backslash (number? : List UInt8 → Option (Option (Char × List UInt8))) (rest : List UInt8)
    (mode : Nat) : Step :=
  match number? rest with
  | none => .taken ['\\'] rest mode
  | some none => .incomplete
  | some (some (c, rest)) => .taken [c] rest mode

/-- A unit of four digits behind `u`, or two that are surrogates. -/
def unitNumber? (bytes : List UInt8) : Option (Option (Char × List UInt8)) :=
  match bytes with
  | [] => some none
  | 0x75 :: digits =>
    match wideNumber? 4 digits with
    | none => if mayBeNumber 4 digits then some none else none
    | some (n, rest) =>
      if isLowSurrogate n then none
      else if isHighSurrogate n then
        match rest with
        | [] | [0x5C] => some none
        | 0x5C :: 0x75 :: digits =>
          match wideNumber? 4 digits with
          | none => if mayBeNumber 4 digits then some none else none
          | some (m, rest) =>
            if isLowSurrogate m then
              (scalar? (ofSurrogates n m)).map fun c => some (c, rest)
            else none
        | _ => none
      else (scalar? n).map fun c => some (c, rest)
  | _ => none

/-- Latin-1 with units of UTF-16 by number. -/
def latin1Numbered : Coding := fun mode bytes =>
  match bytes with
  | [] => .incomplete
  | 0x5C :: rest => backslash unitNumber? rest mode
  | b :: rest => .taken [Char.ofNat b.toNat] rest mode

/-- Four digits behind `u` or eight behind `U`. -/
def scalarNumber? (bytes : List UInt8) : Option (Option (Char × List UInt8)) :=
  let numbered (count : Nat) (digits : List UInt8) : Option (Option (Char × List UInt8)) :=
    match wideNumber? count digits with
    | none => if mayBeNumber count digits then some none else none
    | some (n, rest) => some ((scalar? n).map fun c => (c, rest))
  match bytes with
  | [] => some none
  | 0x75 :: digits => numbered 4 digits
  | 0x55 :: digits => numbered 8 digits
  | _ => none

/-- Is the character one that may be written by number? -/
def isNumberable (c : Char) : Bool :=
  0xA0 ≤ c.toNat || c == '$' || c == '@' || c.toNat == 0x60

/-- ASCII and the controls behind it, with characters by number. -/
def asciiNumbered : Coding := fun mode bytes =>
  match bytes with
  | [] => .incomplete
  | 0x5C :: rest =>
    match backslash scalarNumber? rest mode with
    | .taken [c] rest mode =>
      if c == '\\' || isNumberable c then .taken [c] rest mode else .malformed
    | step => step
  | b :: rest => Step.one (if b < 0xA0 then some (Char.ofNat b.toNat) else none) rest mode

end Storyboard.Markup.Coding
