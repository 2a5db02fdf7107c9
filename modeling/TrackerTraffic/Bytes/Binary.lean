import TrackerTraffic.Text.Utf8

/-!
# Binary strings

Bytes travel through text fields as binary strings, one character from U+0000 to
U+00FF for each byte.  `toBytes` recovers the bytes of a string, and `repair`
undoes the detour for bytes that were UTF-8 text all along.
-/

namespace TrackerTraffic.Binary

def ofBytes (bytes : Bytes) : List Char := bytes.map fun b => Char.ofNat b.toNat

def isBinary (cs : List Char) : Bool := cs.all fun c => c.toNat ≤ 0xFF

def isAscii (cs : List Char) : Bool := cs.all fun c => c.toNat < 0x80

/-- The bytes of a string: of a binary string its bytes, of any other its UTF-8 encoding. -/
def toBytes (cs : List Char) : Bytes :=
  if isBinary cs then cs.map fun c => UInt8.ofNat c.toNat else Utf8.encode cs

/-- The text that bytes encode in UTF-8, or else their binary string. -/
def textOfBytes (bytes : Bytes) : List Char := (Utf8.decode? bytes).getD (ofBytes bytes)

/-- The text behind a binary string of UTF-8; any other string stays as it is. -/
def repair (cs : List Char) : List Char :=
  if isAscii cs then cs
  else if isBinary cs then (Utf8.decode? (toBytes cs)).getD cs
  else cs

end TrackerTraffic.Binary
