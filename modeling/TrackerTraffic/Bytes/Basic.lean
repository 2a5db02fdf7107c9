import TrackerTraffic.Text.Hex

/-!
# Byte sequences

Byte sequences are lists of bytes.  `Bytes.toHex` and `Bytes.ofHex?` are their
hexadecimal text.
-/

namespace TrackerTraffic

abbrev Bytes := List UInt8

namespace Bytes

def toHex (bytes : Bytes) : String :=
  String.ofList <| bytes.flatMap fun b =>
    [Text.hexDigit (b.toNat / 16), Text.hexDigit (b.toNat % 16)]

def ofHexDigits? : List Char → Option Bytes
  | [] => some []
  | [_] => none
  | a :: b :: rest => do
    return UInt8.ofNat ((← Text.hexValue? a) * 16 + (← Text.hexValue? b)) :: (← ofHexDigits? rest)

def ofHex? (text : String) : Option Bytes := ofHexDigits? text.toList

/-- The number whose digits in base 256 are the bytes, least first. -/
def littleEndian : Bytes → Nat
  | [] => 0
  | b :: rest => b.toNat + 256 * littleEndian rest

end Bytes

end TrackerTraffic
