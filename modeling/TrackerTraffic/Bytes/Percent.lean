import TrackerTraffic.Text.Utf8

/-!
# Percent encoding

`encodeBytes` writes the bytes that a set names as `%XX`; `decode` reads every
`%` that two hexadecimal digits follow and keeps all other bytes.
-/

namespace TrackerTraffic.Percent

/-- `%` and two digits for a byte. -/
def escape (b : UInt8) : List Char :=
  ['%', Text.upperHexDigit (b.toNat / 16), Text.upperHexDigit (b.toNat % 16)]

/-- The bytes as text, those in `escaped` and all above ASCII as `%XX`. -/
def encodeBytes (escaped : UInt8 → Bool) (bytes : Bytes) : List Char :=
  bytes.flatMap fun b =>
    if b.toNat < 0x80 && !escaped b then [Char.ofNat b.toNat] else escape b

/-- The UTF-8 encoding of a text, percent encoded. -/
def encode (escaped : UInt8 → Bool) (cs : List Char) : List Char :=
  encodeBytes escaped (Utf8.encode cs)

def notAlphanumeric (b : UInt8) : Bool := !(Char.ofNat b.toNat).isAlphanum

/-- The value of a byte that is a hexadecimal digit. -/
def digit? (b : UInt8) : Option Nat := Text.hexValue? (Char.ofNat b.toNat)

/-- The bytes with each `%` and two digits read as the byte they name. -/
def decode : Bytes → Bytes
  | [] => []
  | b :: rest =>
    if b.toNat = 0x25 then
      match rest with
      | h :: l :: after =>
        match digit? h, digit? l with
        | some m, some n => UInt8.ofNat (m * 16 + n) :: decode after
        | _, _ => b :: decode (h :: l :: after)
      | rest => b :: decode rest
    else b :: decode rest

/-- The bytes of a text's UTF-8 encoding, percent decoded. -/
def decodeText (cs : List Char) : Bytes := decode (Utf8.encode cs)

end TrackerTraffic.Percent
