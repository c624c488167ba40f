import Swarmkeeper.Text.Numeral

/-!
Bytes as hexadecimal text, two lower-case digits a byte.
-/

namespace Swarmkeeper.Text.Hex

/-- The two digits of a byte. -/
def byteChars (b : UInt8) : List Char := padZeros 2 (hexadecimal b.toNat)

/-- The bytes as text. -/
def encode (bytes : List UInt8) : String := String.ofList (bytes.flatMap byteChars)

/-- The bytes that pairs of digits of either case write. -/
def decodeChars : List Char → Option (List UInt8)
  | [] => some []
  | a :: b :: rest => do
      let high ← hexValue? a
      let low ← hexValue? b
      let bytes ← decodeChars rest
      pure (UInt8.ofNat (high * 16 + low) :: bytes)
  | [_] => none

/-- The bytes that the text writes. -/
def decode (s : String) : Option (List UInt8) := decodeChars s.toList

end Swarmkeeper.Text.Hex
