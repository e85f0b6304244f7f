/-!
# Prefix codes

A prefix code gives each symbol a word of bits, and no word is the beginning of another one. Here
the lengths of the words settle the code: shorter words come first, and words of one length follow
each other in the order of their symbols. So a code is the list of its symbols by length, and a
word is decoded level by level (`PrefixCode.decode`).
-/
namespace Storyboard.Compression

/-- Why decoding stopped before its end. -/
inductive Stop where
  /-- There were too few bits. -/
  | short
  | corrupt
  deriving Repr, DecidableEq

/-- The symbols with words of one bit, of two bits, and so on, each level in ascending order. -/
abbrev PrefixCode := List (List Nat)

namespace PrefixCode

/-- The symbols whose words have the given length. -/
def level (lengths : List Nat) (n : Nat) : List Nat :=
  (lengths.zipIdx.filter fun p => p.1 = n).map Prod.snd

/-- The code of the given lengths, symbol by symbol; a symbol of length 0 has no word. -/
def ofLengths (lengths : List Nat) : PrefixCode :=
  (List.range' 1 (max 1 (lengths.foldl max 0))).map (level lengths)

/-- How many more words of the last length there could be; none if there are too many. `free` is
how many beginnings of words there are. -/
def room? (free : Nat) : PrefixCode → Option Nat
  | [] => some free
  | symbols :: deeper =>
    if 2 * free < symbols.length then none else room? (2 * free - symbols.length) deeper

/-- A code without symbols, or one in which each sequence of bits is a word or begins or extends
one. A single word of one bit is accepted too if `single` says so. -/
def isUsable (single : Bool) (code : PrefixCode) : Bool :=
  code.flatten.isEmpty ||
    match code.room? 1 with
    | none => false
    | some room => room = 0 || (single && code.length = 1)

/-- The symbol whose word is at the head of the bits, and the bits behind it. `offset` is how far
the bits read so far are behind the first word of their length, in the order of words. -/
def decodeFrom : PrefixCode → Nat → List Bool → Except Stop (Nat × List Bool)
  | [], _, _ => .error .corrupt
  | _ :: _, _, [] => .error .short
  | symbols :: deeper, offset, b :: bits =>
    let offset := 2 * offset + b.toNat
    match symbols[offset]? with
    | some symbol => .ok (symbol, bits)
    | none => decodeFrom deeper (offset - symbols.length) bits

def decode (code : PrefixCode) (bits : List Bool) : Except Stop (Nat × List Bool) :=
  code.decodeFrom 0 bits

end PrefixCode

end Storyboard.Compression
