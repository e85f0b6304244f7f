import Storyboard.Text.Radix
import Storyboard.Text.Utf8
/-!
# Addresses of files

A path can be written as an address: `file:` and a path from the top, perhaps behind two slashes and
the host `localhost` or none. In an address, a percent sign and two hexadecimal digits stand for a
byte. Any other text is a path as it is. A path ends before a NUL.
-/
namespace Storyboard.Disk.Path

open Storyboard.Text (digitOf?)

/-- What follows a beginning, which may be written in letters of either case. -/
def behind? (beginning : String) (s : List Char) : Option (List Char) :=
  if beginning.toList.isPrefixOf (s.map Char.toLower) then some (s.drop beginning.length) else none

/-- What an address says behind its scheme and host, from the slash that ends those. -/
def ofScheme? (s : List Char) : Option (List Char) :=
  ["file://localhost/", "file:///", "file:/"].findSome? fun beginning =>
    (behind? beginning s).map ('/' :: ·)

/-- The bytes of an address. -/
def addressBytes : List Char → List UInt8
  | '%' :: a :: b :: rest =>
    match digitOf? 16 a, digitOf? 16 b with
    | some m, some n => UInt8.ofNat (16 * m + n) :: addressBytes rest
    | _, _ => 0x25 :: addressBytes (a :: b :: rest)
  | c :: rest => String.utf8EncodeChar c ++ addressBytes rest
  | [] => []

def isNul (c : Char) : Bool := c == '\x00'

/-- A NUL can stand in the text of a path and in no name. -/
def hasNul (path : String) : Bool := path.toList.any isNul

/-- The path that an address or a path stands for. -/
def ofAddress (address : String) : String :=
  let s := address.toList.takeWhile fun c => !isNul c
  match ofScheme? s with
  | none => String.ofList s
  | some s => Text.ofUtf8 ((addressBytes s).takeWhile (· != 0))

end Storyboard.Disk.Path
