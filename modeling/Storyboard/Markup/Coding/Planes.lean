import Storyboard.Markup.Coding.Alphabets
import Storyboard.Markup.Coding.Simplified
import Storyboard.Markup.Coding.Traditional
/-!
# Planes

CNS 11643 has planes of 94 rows and columns. The first two hold the characters of Big5, mostly in
its order, so they are given by runs of it. EUC-TW writes plane, row and column; ISO-2022-CN writes
them in seven bits, and so does ISO-2022-JP-2 with the tables of several countries.
-/
namespace Storyboard.Markup.Coding

/-- A plane by runs of Big5, each with its place in the plane, that in Big5, and its length, and by
texts, each with its place. -/
structure Plane where
  runs : List (Nat × Nat × Nat)
  texts : List (Nat × String)

namespace Plane

/-- The character in a row and a column. -/
def character? (p : Plane) (row column : Nat) : Option Char :=
  let n := row * 94 + column
  let inRun (run : Nat × Nat × Nat) : Option Char :=
    if run.1 ≤ n && n < run.1 + run.2.2 then big5Table[run.2.1 + n - run.1]? else none
  let inText (text : Nat × String) : Option Char :=
    if text.1 ≤ n then text.2.toList[n - text.1]? else none
  p.runs.findSome? inRun <|> p.texts.findSome? inText

end Plane

def firstPlane : Plane where
  runs := [
    (0, 0, 5), (6, 6, 8), (15, 15, 6), (21, 23, 2), (24, 22, 1), (29, 29, 44), (73, 74, 1), (74,
    73, 1), (75, 75, 22), (98, 98, 1), (100, 100, 27), (127, 128, 1), (128, 127, 1), (129, 129,
    19), (148, 149, 1), (149, 148, 1), (150, 150, 4), (155, 21, 1), (156, 156, 2), (160, 160, 1),
    (162, 162, 1), (165, 165, 69), (282, 234, 29), (312, 264, 1), (314, 266, 142), (470, 6101,
    20), (3290, 471, 17), (3307, 263, 1), (3308, 489, 86), (3394, 265, 1), (3395, 576, 1307),
    (4702, 1884, 424), (5126, 1883, 1), (5127, 2308, 1876), (7003, 4571, 1), (7004, 4184, 387),
    (7391, 4572, 525), (7916, 5286, 1), (7917, 5097, 105), (8023, 5203, 83), (8106, 5287, 84),
    (8190, 5517, 1), (8191, 5371, 54), (8245, 5426, 1), (8246, 5425, 1), (8247, 5427, 90), (8337,
    5518, 354)]
  texts := [
    (5, "・"), (14, "﹑"), (23, "︲"), (154, "‖"), (158, "∕﹨"), (161, "￥"), (163, "￠￡"), (490,
    "ⅰⅱⅲⅳⅴⅵⅶⅷⅸⅹ"), (571, "亠"), (578, "冫"), (583, "勹"), (3102,
    "␀␁␂␃␄␅␆␇␈␉␊␋␌␍␎␏␐␑␒␓␔␕␖␗␘␙␚␛␜␝␞␟␡"), (8022, "彞")]

def secondPlane : Plane where
  runs := [
    (0, 6280, 10), (10, 6291, 33), (43, 6372, 1), (44, 6324, 48), (92, 6373, 46), (138, 6586, 1),
    (139, 6419, 167), (306, 6587, 1840), (2146, 9074, 1), (2147, 8428, 108), (2255, 8537, 537),
    (2792, 8427, 1), (2793, 9075, 100), (2893, 8536, 1), (2894, 9175, 399), (3293, 9575, 1637),
    (4930, 11761, 1), (4931, 11212, 146), (5077, 11899, 1), (5078, 11358, 287), (5365, 12508, 1),
    (5366, 11645, 116), (5482, 11762, 137), (5619, 11900, 104), (5723, 12425, 1), (5724, 12004,
    222), (5946, 12227, 198), (6144, 12426, 82), (6226, 12509, 86), (6312, 12226, 1), (6313,
    12595, 8), (6321, 12604, 153), (6474, 12758, 56), (6530, 13114, 1), (6531, 12814, 113), (6644,
    12603, 1), (6645, 12927, 142), (6787, 12757, 1), (6788, 13069, 45), (6833, 13115, 71), (6904,
    13380, 1), (6905, 13186, 194), (7099, 13381, 490), (7589, 13914, 1), (7590, 13871, 43), (7633,
    13915, 1), (7634, 13917, 11), (7645, 13916, 1), (7646, 13928, 4)]
  texts := [
    ]

/-- The plane of a number, if it is known. -/
def plane? (n : Nat) : Option Plane :=
  match n with
  | 1 => some firstPlane
  | 2 => some secondPlane
  | _ => none

/-! ## EUC-TW -/

/-- Two bytes are of the first plane. Four bytes are a lead byte, a plane, a row and a column. -/
def eucTw : Coding := fun mode bytes =>
  match bytes with
  | 0x8E :: p :: a :: b :: rest =>
    if p < 0xA1 || 0xB0 < p || a < 0xA1 || a = 0xFF || b < 0xA1 || b = 0xFF then .malformed
    else
      Step.one
        ((plane? (p.toNat - 0xA0)).bind (·.character? (a.toNat - 0xA1) (b.toNat - 0xA1))) rest mode
  | 0x8E :: _ => .incomplete
  | bytes => twoByte firstPlane.character? mode bytes

/-! ## ISO-2022-CN -/

/-- What is in force in ISO-2022-CN: which table bytes are of behind a shift, 1 being GB 2312 and 2
the first plane; whether they are shifted; and whether the second plane is at hand for single
characters. -/
structure ChineseShift where
  table : Nat
  shifted : Bool
  second : Bool
  deriving Repr, DecidableEq

namespace ChineseShift

def ofMode (mode : Nat) : ChineseShift :=
  ⟨mode % 4, mode.testBit 2, mode.testBit 3⟩

def mode (s : ChineseShift) : Nat :=
  s.table + (if s.shifted then 4 else 0) + (if s.second then 8 else 0)

/-- Bytes by the table in force. -/
def coding (s : ChineseShift) : Coding :=
  if !s.shifted then ascii
  else if s.table = 1 then sevenBit (cell? gb2312 94)
  else if s.table = 2 then sevenBit firstPlane.character?
  else fun _ _ => .malformed

/-- At the end of a line no table is at hand any more. -/
def behind (s : ChineseShift) (bytes : List UInt8) : ChineseShift :=
  if !s.shifted && (bytes.head? = some 0x0A || bytes.head? = some 0x0D) then ⟨0, false, false⟩
  else s

end ChineseShift

/-- The escapes that bring a table to hand. -/
def chineseEscape? (s : ChineseShift) : List UInt8 → Option (ChineseShift × List UInt8)
  | 0x1B :: 0x24 :: 0x29 :: 0x41 :: rest => some ({ s with table := 1 }, rest)
  | 0x1B :: 0x24 :: 0x29 :: 0x47 :: rest => some ({ s with table := 2 }, rest)
  | 0x1B :: 0x24 :: 0x2A :: 0x48 :: rest => some ({ s with second := true }, rest)
  | 0x0E :: rest => if s.table = 0 then none else some ({ s with shifted := true }, rest)
  | 0x0F :: rest => some ({ s with shifted := false }, rest)
  | _ => none

def iso2022Cn : Coding := fun mode bytes =>
  let s := ChineseShift.ofMode mode
  match chineseEscape? s bytes, bytes with
  | some (s, rest), _ => .taken [] rest s.mode
  | none, 0x1B :: 0x4E :: more =>
    if s.second then sevenBit secondPlane.character? mode more else .malformed
  | none, 0x1B :: more => if more.length < 3 then .incomplete else .malformed
  | none, bytes => s.coding (s.behind bytes).mode bytes

/-! ## ISO-2022-JP-2 -/

/-- The escapes to the tables of ISO-2022-JP-2. -/
def multilingualEscapes : List (List UInt8 × Nat) :=
  japaneseEscapes ++ [([0x1B, 0x24, 0x28, 0x44], 3), ([0x1B, 0x24, 0x41], 4),
    ([0x1B, 0x24, 0x28, 0x43], 5)]

def multilingualModes : List Coding :=
  japaneseModes ++
    [sevenBit japaneseSecond, sevenBit (cell? gb2312 94), sevenBit (cell? ksx1001 94)]

/-- The coding that single characters are of: that of the mode divided by eight. -/
def singleCoding? (mode : Nat) : Option Coding :=
  match mode / 8 with
  | 1 => some latin1
  | 2 => some latinGreek
  | _ => none

/-- The mode counts tables, and eights for what single characters are of. That is over at the end of
a line. -/
def iso2022Jp2 : Coding := fun mode bytes =>
  match bytes with
  | 0x1B :: 0x2E :: 0x41 :: rest => .taken [] rest (mode % 8 + 8)
  | 0x1B :: 0x2E :: 0x46 :: rest => .taken [] rest (mode % 8 + 16)
  | 0x1B :: 0x4E :: b :: rest =>
    match singleCoding? mode with
    | some coding => if b < 0x80 then coding mode ((b + 0x80) :: rest) else .malformed
    | none => .malformed
  | [0x1B, 0x2E] | [0x1B, 0x4E] => .incomplete
  | bytes =>
    let base := mode - mode % 8
    match escaped multilingualEscapes multilingualModes (mode % 8) bytes with
    | .taken cs rest inner =>
      .taken cs rest (if cs = ['\n'] || cs = ['\r'] then inner else base + inner)
    | step => step

end Storyboard.Markup.Coding
