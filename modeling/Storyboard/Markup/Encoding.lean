import Storyboard.Markup.Coding.Alphabets
import Storyboard.Markup.Coding.Planes
import Storyboard.Markup.Coding.Unicode
import Storyboard.Markup.XmlDeclaration
/-!
# From bytes to characters

The encoding of a document is told by its first bytes, or by its XML declaration, or else it is
UTF-8. What is declared holds from behind the declared name on.

UTF-8 is read on behind a malformed byte, which is marked. Any other encoding is read up to the
first malformed place. A reader takes such a document in by blocks, and learns of that place when
what it has taken in before comes to its end.
-/
namespace Storyboard.Markup

open Coding

/-! ## Encodings by name -/

/-- An encoding: its names in capitals, its coding, and how its letters join with their marks. -/
structure Charset where
  names : List String
  coding : Coding
  joins : Joins

/-- An encoding by its names between spaces. -/
def Charset.of (names : String) (coding : Coding) : Charset := ⟨names.splitOn " ", coding, []⟩

/-- Encodings of one byte a character. -/
def singleByteCharsets : List Charset :=
  [.of "US-ASCII ASCII ISO646-US ISO-IR-6 ANSI_X3.4-1968 ANSI_X3.4-1986 CP367 IBM367 US CSASCII"
      ascii,
    .of ("ISO-8859-1 ISO_8859-1 ISO8859-1 ISO-LATIN-1 ISO-IR-100 CP819 IBM819 LATIN1 L1 " ++
      "CSISOLATIN1") latin1,
    .of "ISO-8859-2 ISO_8859-2 ISO8859-2 ISO-IR-101 LATIN2 L2 CSISOLATIN2" latin2,
    .of "ISO-8859-3 ISO_8859-3 ISO8859-3 ISO-IR-109 LATIN3 L3 CSISOLATIN3" latin3,
    .of "ISO-8859-4 ISO_8859-4 ISO8859-4 ISO-IR-110 LATIN4 L4 CSISOLATIN4" latin4,
    .of "ISO-8859-5 ISO_8859-5 ISO8859-5 ISO-IR-144 CYRILLIC CSISOLATINCYRILLIC" latinCyrillic,
    .of ("ISO-8859-6 ISO_8859-6 ISO8859-6 ISO-IR-127 ECMA-114 ASMO-708 ARABIC " ++
      "CSISOLATINARABIC") latinArabic,
    .of ("ISO-8859-7 ISO_8859-7 ISO8859-7 ISO-IR-126 ECMA-118 ELOT_928 GREEK8 GREEK " ++
      "CSISOLATINGREEK") latinGreek,
    .of "ISO-8859-8 ISO_8859-8 ISO8859-8 ISO-IR-138 HEBREW CSISOLATINHEBREW" latinHebrew,
    .of "ISO-8859-9 ISO_8859-9 ISO8859-9 ISO-IR-148 LATIN5 L5 CSISOLATIN5" latin5,
    .of "ISO-8859-10 ISO_8859-10 ISO8859-10 ISO-IR-157 LATIN6 L6 CSISOLATIN6" latin6,
    .of "ISO-8859-11 ISO_8859-11 ISO8859-11" latinThai,
    .of "ISO-8859-13 ISO_8859-13 ISO8859-13 ISO-IR-179 LATIN7 L7" latin7,
    .of "ISO-8859-14 ISO_8859-14 ISO8859-14 ISO-IR-199 LATIN8 L8 ISO-CELTIC" latin8,
    .of "ISO-8859-15 ISO_8859-15 ISO8859-15 ISO-IR-203 LATIN-9" latin9,
    .of "ISO-8859-16 ISO_8859-16 ISO8859-16 ISO-IR-226 LATIN10 L10" latin10,
    .of "KOI8-R CSKOI8R" koi8r,
    .of "KOI8-U" koi8u,
    .of "KOI8-RU" koi8ru,
    .of "KOI8-T" koi8t,
    .of "CP1250 WINDOWS-1250 MS-EE" windows1250,
    .of "CP1251 WINDOWS-1251 MS-CYRL" windows1251,
    .of "CP1252 WINDOWS-1252 MS-ANSI" windows1252,
    .of "CP1253 WINDOWS-1253 MS-GREEK" windows1253,
    .of "CP1254 WINDOWS-1254 MS-TURK" windows1254,
    { Charset.of "CP1255 WINDOWS-1255 MS-HEBR" windows1255 with joins := hebrewJoins },
    .of "CP1256 WINDOWS-1256 MS-ARAB" windows1256,
    .of "CP1257 WINDOWS-1257 WINBALTRIM" windows1257,
    { Charset.of "CP1258 WINDOWS-1258" windows1258 with joins := vietnameseJoins },
    .of "CP850 IBM850 CSPC850MULTILINGUAL" codePage850,
    .of "CP862 IBM862 CSPC862LATINHEBREW" codePage862,
    .of "CP866 IBM866 CSIBM866" codePage866,
    .of "CP1131 IBM-1131" codePage1131,
    .of "CP874 WINDOWS-874" codePage874,
    .of "CP1133 IBM-CP1133" codePage1133,
    .of "MACINTOSH MACROMAN MAC CSMACINTOSH" macRoman,
    .of "MACCENTRALEUROPE" macCentralEurope,
    .of "MACICELAND" macIceland,
    .of "MACCROATIAN" macCroatian,
    .of "MACROMANIA" macRomania,
    .of "MACCYRILLIC" macCyrillic,
    .of "MACUKRAINE" macUkraine,
    .of "MACGREEK" macGreek,
    .of "MACTURKISH" macTurkish,
    .of "MACTHAI" macThai,
    .of "MACHEBREW" macHebrew,
    .of "MACARABIC" macArabic,
    .of "NEXTSTEP" nextStep,
    .of "MULELAO-1" muleLao,
    .of "HP-ROMAN8 ROMAN8 R8 CSHPROMAN8" roman8,
    .of "ARMSCII-8" armscii8,
    .of "GEORGIAN-ACADEMY" georgianAcademy,
    .of "GEORGIAN-PS" georgianPs,
    .of "PT154 PTCP154 CP154 CYRILLIC-ASIAN CSPTCP154" paratype154,
    .of "RK1048 STRK1048-2002 KZ-1048 CSKZ1048" kazakh1048,
    .of "TIS-620 TIS620 TIS620-0 TIS620.2529-1 TIS620.2533-0 TIS620.2533-1 ISO-IR-166" thai620,
    .of "VISCII VISCII1.1-1 CSVISCII" viscii,
    { Charset.of "TCVN TCVN-5712 TCVN5712-1" tcvn with joins := vietnameseJoins },
    .of "ISO646-JP JIS_C6220-1969-RO ISO-IR-14 JP CSISO14JISC6220RO" japaneseRoman,
    .of "JIS_X0201 JISX0201-1976 X0201 CSHALFWIDTHKATAKANA" jis0201,
    .of "ISO646-CN GB_1988-80 ISO-IR-57 CN CSISO57GB1988" chineseRoman]

/-- Encodings of several bytes a character. -/
def multiByteCharsets : List Charset :=
  [.of ("EUC-JP EUCJP EXTENDED_UNIX_CODE_PACKED_FORMAT_FOR_JAPANESE " ++
      "CSEUCPKDFMTJAPANESE") eucJp,
    .of "SHIFT_JIS SHIFT-JIS SJIS MS_KANJI CSSHIFTJIS" shiftJis,
    .of "CP932" codePage932,
    .of "ISO-2022-JP CSISO2022JP" iso2022Jp,
    .of "ISO-2022-JP-1" iso2022Jp1,
    .of "ISO-2022-JP-MS CP50221" codePage50221,
    .of "ISO-2022-JP-2 CSISO2022JP2" iso2022Jp2,
    .of "EUC-KR EUCKR CSEUCKR" eucKr,
    .of "CP949 UHC" unifiedHangul,
    .of "JOHAB CP1361" johab,
    .of "ISO-2022-KR CSISO2022KR" iso2022Kr,
    .of "EUC-CN EUCCN GB2312 CN-GB CSGB2312" eucCn,
    .of "GBK" gbk,
    .of "CP936 MS936 WINDOWS-936" codePage936,
    .of "GB18030" gb18030,
    .of "HZ HZ-GB-2312" hz,
    .of "BIG5 BIG-5 BIG-FIVE BIGFIVE CN-BIG5 CSBIG5" big5,
    .of "CP950" codePage950,
    .of "BIG5-HKSCS BIG5HKSCS" big5HongKong,
    .of "EUC-TW EUCTW CSEUCTW" eucTw,
    .of "ISO-2022-CN CSISO2022CN ISO-2022-CN-EXT" iso2022Cn,
    .of "C99" asciiNumbered,
    .of "JAVA" latin1Numbered,
    .of "UTF-7 UNICODE-1-1-UTF-7 CSUNICODE11UTF7" utf7,
    .of "UTF-16 UTF16 UTF-16LE" (utf16 false),
    .of "UTF-16BE" (utf16 true),
    .of "UTF-32" (marked utf32 4 true),
    .of "UTF-32BE UCS-4BE UCS-4-SWAPPED" (utf32 true),
    .of "UTF-32LE UCS-4LE UCS-4-INTERNAL WCHAR_T" (utf32 false),
    .of "UCS-4 UCS4 ISO-10646-UCS-4 CSUCS4" (marked utf32 4 true),
    .of "UCS-2 UCS2 ISO-10646-UCS-2 CSUNICODE" (marked ucs2 2 true),
    .of "UCS-2BE UNICODE-1-1 UNICODEBIG CSUNICODE11 UCS-2-SWAPPED" (ucs2 true),
    .of "UCS-2LE UNICODELITTLE UCS-2-INTERNAL" (ucs2 false)]

def charsets : List Charset := singleByteCharsets ++ multiByteCharsets

def isUtf8Name (name : String) : Bool := name.toUpper = "UTF-8" || name.toUpper = "UTF8"

/-- An encoding by its name, in any case. -/
def charsetNamed? (name : String) : Option Charset :=
  charsets.find? (·.names.contains name.toUpper)

/-! ## UTF-8 -/

/-- Does a byte go on with a character? -/
def goesOn (b : UInt8) : Bool := 0x80 ≤ b && b < 0xC0

/-- The character at the head of a text in UTF-8 and what follows it. A malformed byte is marked as
damage. A character that the end of the text cuts off is illegal. -/
def utf8Head (b : UInt8) (rest : List UInt8) : Char × List UInt8 :=
  let damaged := (damageMark, rest)
  let decoded (n low : Nat) (rest : List UInt8) : Char × List UInt8 :=
    if n < low || !n.isValidChar then damaged
    else if n = 0xFFFE || n = 0xFFFF then (illegalMark, rest)
    else (Char.ofNat n, rest)
  if b < 0x80 then (Char.ofNat b.toNat, rest)
  else if b < 0xC2 || 0xF4 < b then damaged
  else
    let count := if b < 0xE0 then 1 else if b < 0xF0 then 2 else 3
    let more := (rest.take count).takeWhile goesOn
    if more.length < count then
      if more.length = rest.length then (illegalMark, rest) else damaged
    else
      let n := more.foldl (fun n b => n * 64 + b.toNat % 64) (b.toNat % Nat.pow 2 (6 - count))
      decoded n (if count = 1 then 0x80 else if count = 2 then 0x800 else 0x10000)
        (rest.drop count)

/-- The characters of a text in UTF-8; `fuel` bounds their number. -/
def utf8Characters : Nat → List Char → List UInt8 → List Char
  | 0, acc, _ | _, acc, [] => acc.reverse
  | fuel + 1, acc, b :: rest =>
    let (c, rest) := utf8Head b rest
    utf8Characters fuel (c :: acc) rest

def ofUtf8Marked (bytes : List UInt8) : List Char := utf8Characters bytes.length [] bytes

/-! ## Sources -/

/-- How many bytes are decoded at a time. -/
def blockSize : Nat := 4000

/-- When fewer characters than this are left, the next block is decoded. -/
def foresight : Nat := 250

/-- A source whose first characters are known, and the rest of which is in an encoding. -/
def Source.ofCoding (charset : Charset) (known : List Char) (bytes : List UInt8) : Source :=
  let decoded := charset.coding.decode bytes
  let whole := bytes.length - decoded.rest.length
  let characters := known ++ joinMarks charset.joins [] decoded.characters
  let before := (whole / blockSize) * blockSize
  let seen :=
    if before = 0 then 0 else (charset.coding.decode (bytes.take before)).characters.length
  { characters := characters.map fun c => if c = damageMark then illegalMark else c
    size := known.length + bytes.length
    cutOff :=
      if !decoded.malformed then none
      else if before = 0 then some characters.length
      else some (decoded.characters.length - seen + foresight)
    truncated := !decoded.malformed && !decoded.rest.isEmpty
    unknownEncoding := none }

/-- A source in UTF-8; `unknown` is the encoding that it asks for, if that is not known. -/
def Source.ofUtf8 (unknown : Option String) (bytes : List UInt8) : Source :=
  ⟨ofUtf8Marked bytes, bytes.length, none, false, unknown⟩

/-- The coding that the first bytes tell, and the bytes behind the mark. -/
def marked? : List UInt8 → Option (Coding × List UInt8)
  | 0x00 :: 0x00 :: 0x00 :: 0x3C :: rest => some (utf32 true, 0x00 :: 0x00 :: 0x00 :: 0x3C :: rest)
  | 0x3C :: 0x00 :: 0x00 :: 0x00 :: rest => some (utf32 false, 0x3C :: 0x00 :: 0x00 :: 0x00 :: rest)
  | 0x00 :: 0x3C :: 0x00 :: 0x3F :: rest => some (utf16 true, 0x00 :: 0x3C :: 0x00 :: 0x3F :: rest)
  | 0x3C :: 0x00 :: 0x3F :: 0x00 :: rest => some (utf16 false, 0x3C :: 0x00 :: 0x3F :: 0x00 :: rest)
  | 0xFE :: 0xFF :: a :: b :: rest => some (utf16 true, a :: b :: rest)
  | 0xFF :: 0xFE :: a :: b :: rest => some (utf16 false, a :: b :: rest)
  | _ => none

/-- Are these the first bytes of an XML declaration in EBCDIC, which is not read? -/
def isEbcdic (bytes : List UInt8) : Bool := [0x4C, 0x6F, 0xA7, 0x94].isPrefixOf bytes

/-- The characters of a document. -/
def Source.ofBytes (bytes : List UInt8) : Source :=
  match marked? bytes with
  | some (coding, rest) => .ofCoding ⟨[], coding, []⟩ [] rest
  | none =>
    if [0xEF, 0xBB, 0xBF].isPrefixOf bytes && 4 ≤ bytes.length then .ofUtf8 none (bytes.drop 3)
    else match declaredEncoding? (bytes.map fun b => Char.ofNat b.toNat) with
      | none => .ofUtf8 none bytes
      | some (name, n) =>
        if isUtf8Name name then .ofUtf8 none bytes
        else match charsetNamed? name with
          | some charset =>
            .ofCoding charset ((bytes.take n).map fun b => Char.ofNat b.toNat) (bytes.drop n)
          | none => .ofUtf8 (some name) bytes

end Storyboard.Markup
