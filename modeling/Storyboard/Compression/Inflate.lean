import Storyboard.Compression.PrefixCode
/-!
# Inflating

Deflated data is a stream of bits, in each byte the lowest first. It comes in blocks. A block is
stored as it is, or it is a sequence of symbols under two prefix codes, which are fixed or stand in
front of it. A symbol is a byte, or the end of the block, or says to repeat so many bytes from so
far back.

What was inflated before the data stops short or turns out corrupt is kept (`Inflation.output`).
-/
namespace Storyboard.Compression

/-- The bits that are left and the bytes so far. -/
structure Inflation where
  bits : List Bool
  output : Array UInt8
  deriving Repr

abbrev Inflating := EStateM Stop Inflation

/-- The bits of a byte, the lowest first. -/
def byteBits (b : UInt8) : List Bool := (List.range 8).map b.toNat.testBit

/-- The number that bits make, the lowest first. -/
def bitsValue : List Bool → Nat
  | [] => 0
  | b :: bits => b.toNat + 2 * bitsValue bits

namespace Inflating

/-- A number of so many bits. -/
def number (n : Nat) : Inflating Nat := do
  let s ← get
  let (taken, rest) := s.bits.splitAt n
  if taken.length < n then throw .short
  set { s with bits := rest }
  return bitsValue taken

/-- Skips the bits that are left of a byte. -/
def align : Inflating Unit := modify fun s => { s with bits := s.bits.drop (s.bits.length % 8) }

def symbol (code : PrefixCode) : Inflating Nat := do
  match code.decode (← get).bits with
  | .error stop => throw stop
  | .ok (symbol, bits) =>
    modify fun s => { s with bits }
    return symbol

def emit (b : UInt8) : Inflating Unit := modify fun s => { s with output := s.output.push b }

/-! ## Repetition -/

/-- A number by its place in a table: the least that is meant, to which so many bits are added. -/
def tabled (table : List (Nat × Nat)) (place : Nat) : Inflating Nat := do
  match table[place]? with
  | none => throw .corrupt
  | some (least, extra) => return least + (← number extra)

/-- How many bytes to repeat. -/
def counts : List (Nat × Nat) :=
  [(3, 0), (4, 0), (5, 0), (6, 0), (7, 0), (8, 0), (9, 0), (10, 0), (11, 1), (13, 1), (15, 1),
    (17, 1), (19, 2), (23, 2), (27, 2), (31, 2), (35, 3), (43, 3), (51, 3), (59, 3), (67, 4),
    (83, 4), (99, 4), (115, 4), (131, 5), (163, 5), (195, 5), (227, 5), (258, 0)]

/-- How far back they are. -/
def distances : List (Nat × Nat) :=
  [(1, 0), (2, 0), (3, 0), (4, 0), (5, 1), (7, 1), (9, 2), (13, 2), (17, 3), (25, 3), (33, 4),
    (49, 4), (65, 5), (97, 5), (129, 6), (193, 6), (257, 7), (385, 7), (513, 8), (769, 8),
    (1025, 9), (1537, 9), (2049, 10), (3073, 10), (4097, 11), (6145, 11), (8193, 12), (12289, 12),
    (16385, 13), (24577, 13)]

/-- Repeats `n` bytes from `distance` back; those repeated first may be repeated again. -/
def repeatBack (distance : Nat) : Nat → Inflating Unit
  | 0 => return ()
  | n + 1 => do
    let output := (← get).output
    match output[output.size - distance]? with
    | none => throw .corrupt
    | some b => emit b
    repeatBack distance n

/-! ## Blocks -/

/-- The symbols of a block up to its end; `fuel` bounds their number. -/
def symbols (codes distanceCodes : PrefixCode) : Nat → Inflating Unit
  | 0 => throw .corrupt
  | fuel + 1 => do
    let n ← symbol codes
    if n < 256 then
      emit (UInt8.ofNat n)
      symbols codes distanceCodes fuel
    else if 256 < n then
      let count ← tabled counts (n - 257)
      let distance ← tabled distances (← symbol distanceCodes)
      if (← get).output.size < distance then throw .corrupt
      repeatBack distance count
      symbols codes distanceCodes fuel

/-- So many bytes as they are. -/
def stored : Nat → Inflating Unit
  | 0 => return ()
  | n + 1 => do
    emit (UInt8.ofNat (← number 8))
    stored n

/-- A stored block: its size, written twice, the second time with its bits inverted, and its
bytes. -/
def storedBlock : Inflating Unit := do
  align
  let size ← number 16
  if size + (← number 16) != 0xFFFF then throw .corrupt
  stored size

/-- A block under two codes. -/
def codedBlock (lengths distanceLengths : List Nat) : Inflating Unit := do
  let codes := PrefixCode.ofLengths lengths
  let distanceCodes := PrefixCode.ofLengths distanceLengths
  if !codes.isUsable true || !distanceCodes.isUsable true then throw .corrupt
  symbols codes distanceCodes ((← get).bits.length + 1)

/-- The lengths of the fixed codes. -/
def fixedLengths : List Nat :=
  List.replicate 144 8 ++ List.replicate 112 9 ++ List.replicate 24 7 ++ List.replicate 8 8

/-- The order in which the lengths for the code of lengths are written. -/
def lengthOrder : List Nat := [16, 17, 18, 0, 8, 7, 9, 6, 10, 5, 11, 4, 12, 3, 13, 2, 14, 1, 15]

/-- The next lengths: one, or the last one repeated, or zeros. -/
def someLengths (code : PrefixCode) (last : Option Nat) : Inflating (List Nat) := do
  match ← symbol code with
  | 16 =>
    let n := 3 + (← number 2)
    match last with
    | none => throw .corrupt
    | some length => return List.replicate n length
  | 17 => return List.replicate (3 + (← number 3)) 0
  | 18 => return List.replicate (11 + (← number 7)) 0
  | length => return [length]

/-- So many lengths, `read` being those so far, last first; `fuel` bounds the number of steps. -/
def lengthsUpTo (code : PrefixCode) (count : Nat) (read : List Nat) : Nat → Inflating (List Nat)
  | 0 => return read.reverse
  | fuel + 1 => do
    if count ≤ read.length then return read.reverse
    let more ← someLengths code read.head?
    if count < read.length + more.length then throw .corrupt
    lengthsUpTo code count (more.reverse ++ read) fuel

/-- A block with its codes in front of it, by the lengths of their words, which are themselves
written in a code. -/
def describedBlock : Inflating Unit := do
  let n ← number 14
  let size := 257 + n % 32
  let distanceSize := 1 + n / 32 % 32
  if 286 < size || 30 < distanceSize then throw .corrupt
  let mut written : List Nat := []
  for _ in List.range (4 + n / 1024) do
    written := written ++ [← number 3]
  let code := PrefixCode.ofLengths
    ((List.range 19).map fun i => ((lengthOrder.zip written).lookup i).getD 0)
  if !code.isUsable false then throw .corrupt
  let lengths ← lengthsUpTo code (size + distanceSize) [] (size + distanceSize)
  if lengths[256]?.getD 0 = 0 then throw .corrupt
  codedBlock (lengths.take size) (lengths.drop size)

/-- The blocks up to the last one; `fuel` bounds their number. -/
def blocks : Nat → Inflating Unit
  | 0 => throw .corrupt
  | fuel + 1 => do
    let head ← number 3
    match head / 2 with
    | 0 => storedBlock
    | 1 => codedBlock fixedLengths (List.replicate 32 5)
    | 2 => describedBlock
    | _ => throw .corrupt
    if head % 2 = 0 then blocks fuel

/-- Deflated data. -/
def deflated : Inflating Unit := do blocks ((← get).bits.length + 1)

end Inflating

end Storyboard.Compression
