import Storyboard.Compression.Inflate
/-!
# Compressed files

A compressed file consists of members, each of which has a header, deflated data, and a check of
what was inflated: its cyclic redundancy check and its size. What follows the last member is
ignored.

A file that breaks off is what can be inflated of it. From a corrupt file less can be had, since
bytes are handed over in portions, and a portion with a fault in it not at all.
-/
namespace Storyboard.Compression

/-- One bit of a division by the polynomial of the check. -/
def crcStep (remainder : UInt32) : UInt32 :=
  if remainder &&& 1 = 1 then (remainder >>> 1) ^^^ 0xEDB88320 else remainder >>> 1

def crcByte (remainder : UInt32) (b : UInt8) : UInt32 :=
  (List.range 8).foldl (fun r _ => crcStep r) (remainder ^^^ b.toUInt32)

/-- The cyclic redundancy check of 32 bits. -/
def crc (bytes : List UInt8) : UInt32 := bytes.foldl crcByte 0xFFFFFFFF ^^^ 0xFFFFFFFF

/-- What a member starts with. -/
def isMember (bytes : List UInt8) : Bool := [0x1F, 0x8B].isPrefixOf bytes

namespace Inflating

/-- Skips bytes up to a zero; `fuel` bounds their number. -/
def skipText : Nat → Inflating Unit
  | 0 => return ()
  | fuel + 1 => do
    if (← number 8) != 0 then skipText fuel

/-- The bytes that bits make. -/
def bytesOf : List Bool → List UInt8
  | a :: b :: c :: d :: e :: f :: g :: h :: rest =>
    UInt8.ofNat (bitsValue [a, b, c, d, e, f, g, h]) :: bytesOf rest
  | _ => []

/-- The header of a member. Bits of its fourth byte say what it has: a check of its own, further
fields, a file name, a comment. -/
def header : Inflating Unit := do
  let start := (← get).bits
  let has (flags i : Nat) : Bool := flags.testBit i
  let _ ← number 16
  let n ← number 16
  let flags := n / 256
  if n % 256 != 8 || 32 ≤ flags then throw .corrupt
  let _ ← number 32
  let _ ← number 16
  if has flags 2 then
    let size ← number 16
    let _ ← number (8 * size)
  if has flags 3 then skipText start.length
  if has flags 4 then skipText start.length
  if has flags 1 then
    let read := bytesOf (start.take (start.length - (← get).bits.length))
    if (← number 16) != (crc read).toNat % 0x10000 then throw .corrupt

/-- What follows the data of a member. -/
def trailer : Inflating Unit := do
  align
  let output := (← get).output
  if (← number 32) != (crc output.toList).toNat then throw .corrupt
  if (← number 32) != output.size % 0x100000000 then throw .corrupt

def member : Inflating Unit := do
  header
  deflated
  trailer

end Inflating

/-- The size of the portions that are inflated at once, and of those that are handed over. -/
def inflatedPortion : Nat := 16384

def handedPortion : Nat := 4000

/-- As many whole portions as there are. -/
def wholePortions (portion : Nat) (bytes : Array UInt8) : Array UInt8 :=
  bytes.extract 0 (bytes.size - bytes.size % portion)

/-- What the members of a file are inflated to, `done` being those before; `fuel` bounds their
number. -/
def membersFrom (done : Array UInt8) (bytes : List UInt8) : Nat → Array UInt8
  | 0 => done
  | fuel + 1 =>
    if !isMember bytes then done
    else
      match EStateM.run Inflating.member ⟨bytes.flatMap byteBits, #[]⟩ with
      | .ok _ s =>
        membersFrom (done ++ s.output) (bytes.drop (bytes.length - s.bits.length / 8)) fuel
      | .error .short s => done ++ s.output
      | .error .corrupt s =>
        wholePortions handedPortion (done ++ wholePortions inflatedPortion s.output)

/-- The content of a file: what it is inflated to if it is compressed, or the file as it is. -/
def unpacked (bytes : List UInt8) : List UInt8 :=
  if isMember bytes then (membersFrom #[] bytes bytes.length).toList else bytes

end Storyboard.Compression
