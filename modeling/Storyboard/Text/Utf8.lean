/-!
# UTF-8

The bytes of a text, and the text of bytes. Where bytes are no text, each malformed place becomes
one replacement character.
-/
namespace Storyboard.Text

/-- A text in UTF-8. -/
def utf8 (s : String) : List UInt8 := s.toList.flatMap String.utf8EncodeChar

/-- The number of bytes in the character that a byte opens, and the range of the byte behind it. -/
def utf8Length? (b : UInt8) : Option (Nat × UInt8 × UInt8) :=
  if b < 0x80 then some (1, 0, 0)
  else if b < 0xC2 then none
  else if b < 0xE0 then some (2, 0x80, 0xBF)
  else if b = 0xE0 then some (3, 0xA0, 0xBF)
  else if b = 0xED then some (3, 0x80, 0x9F)
  else if b < 0xF0 then some (3, 0x80, 0xBF)
  else if b = 0xF0 then some (4, 0x90, 0xBF)
  else if b < 0xF4 then some (4, 0x80, 0xBF)
  else if b = 0xF4 then some (4, 0x80, 0x8F)
  else none

/-- A character under way: its bits so far, how many bytes are missing, the range of the next. -/
structure Pending where
  bits : Nat
  missing : Nat
  low : UInt8
  high : UInt8
  deriving Repr, DecidableEq

/-- What a byte that opens a character leaves: the character, or one under way, or neither. -/
def utf8Open (b : UInt8) : Option Char × Option Pending :=
  match utf8Length? b with
  | none => (none, none)
  | some (1, _, _) => (some (Char.ofNat b.toNat), none)
  | some (n, low, high) => (none, some ⟨b.toNat % Nat.pow 2 (7 - n), n - 1, low, high⟩)

/-- UTF-8, with `none` for each malformed place. A place ends before the first byte that cannot go
on with it. -/
def utf8From (pending : Option Pending) : List UInt8 → List (Option Char)
  | [] => if pending.isSome then [none] else []
  | b :: rest =>
    let fresh :=
      match utf8Open b with
      | (none, none) => none :: utf8From none rest
      | (some c, _) => some c :: utf8From none rest
      | (none, pending) => utf8From pending rest
    match pending with
    | none => fresh
    | some p =>
      if p.low ≤ b ∧ b ≤ p.high then
        let bits := p.bits * 64 + b.toNat % 64
        if p.missing ≤ 1 then some (Char.ofNat bits) :: utf8From none rest
        else utf8From (some ⟨bits, p.missing - 1, 0x80, 0xBF⟩) rest
      else none :: fresh

/-- The text of bytes. -/
def ofUtf8 (bytes : List UInt8) : String :=
  String.ofList ((utf8From none bytes).map (·.getD '\ufffd'))

end Storyboard.Text
