import Swarmkeeper.Text.Numeral
import Swarmkeeper.Text.Utf8

/-!
Percent-encoding: a byte that may not stand for itself is written as a percent sign and two
hexadecimal digits. Which ASCII characters are written so depends on the part of the URL; all others
are.
-/

namespace Swarmkeeper.Url.Percent

open Swarmkeeper.Text

/-- A control character of ASCII. -/
def isControl (c : Char) : Bool := c.toNat < 0x20 || c.toNat == 0x7F

/-- The characters that a fragment encodes besides control characters. -/
def fragment : List Char := [' ', '"', '<', '>', '\x60']

/-- The characters that a path encodes. -/
def path : List Char := fragment ++ ['#', '?', '\x7b', '\x7d']

/-- The characters that the name and password of a user encode. -/
def userinfo : List Char := path ++ ['/', ':', ';', '=', '@', '[', '\\', ']', '^', '|']

/-- The characters that a query encodes. -/
def query : List Char := [' ', '"', '#', '<', '>']

/-- One byte as a percent sign and two digits. -/
def encodeByte (b : UInt8) : List Char :=
  '%' :: (padZeros 2 (hexadecimal b.toNat)).map Char.toUpper

/-- The text with each control character, each character of the list and each character outside
ASCII encoded. -/
def encode (reserved : List Char) (cs : List Char) : List Char :=
  cs.flatMap fun c =>
    if isControl c || 0x80 ≤ c.toNat || reserved.contains c then
      (Utf8.encode (String.singleton c)).flatMap encodeByte
    else [c]

/-- The bytes with every encoded byte decoded. A percent sign without two digits stands for itself. -/
def decodeBytes : List UInt8 → List UInt8
  | 0x25 :: a :: b :: rest =>
      match hexValue? (Char.ofNat a.toNat), hexValue? (Char.ofNat b.toNat) with
      | some x, some y => UInt8.ofNat (x * 16 + y) :: decodeBytes rest
      | _, _ => 0x25 :: decodeBytes (a :: b :: rest)
  | b :: rest => b :: decodeBytes rest
  | [] => []

/-- The bytes of a text with every encoded byte decoded. -/
def decode (cs : List Char) : List UInt8 := decodeBytes (Utf8.encode (String.ofList cs))

end Swarmkeeper.Url.Percent
