import TrackerTraffic.Bytes.Percent
import TrackerTraffic.Text.CodeTable

/-!
# Form encoded pairs

Names and values joined by `=` and `&`.  A space is written `+` and other bytes
may be written `%XX`; what is not UTF-8 reads as replacement characters.
-/

namespace TrackerTraffic.Form

/-- The character that a sign in a name or a value stands for. -/
def unplus (c : Char) : Char := if c = '+' then ' ' else c

def decodePart (cs : List Char) : List Char :=
  Utf8.decodeLossy (Percent.decode (Utf8.encode (cs.map unplus)))

/-- Reads one pair; without a sign the value is empty. -/
def decodePair (cs : List Char) : List Char × List Char :=
  (decodePart (cs.takeWhile (· != '=')), decodePart ((cs.dropWhile (· != '=')).drop 1))

/-- The pairs of a text, empty ones left out. -/
def decode (cs : List Char) : List (List Char × List Char) :=
  ((CodeTable.cutAt '&' cs).filter (!·.isEmpty)).map decodePair

/-- The byte is written as it is: a letter, a digit or one of `*-._`. -/
def isPlain (b : UInt8) : Bool :=
  let c := Char.ofNat b.toNat
  c.isAlphanum || c == '*' || c == '-' || c == '.' || c == '_'

/-- Writes one byte of a name or a value. -/
def encodeByte (b : UInt8) : List Char :=
  if b.toNat = 0x20 then ['+'] else if isPlain b then [Char.ofNat b.toNat] else Percent.escape b

def encodePart (cs : List Char) : List Char := (Utf8.encode cs).flatMap encodeByte

def encodePair (pair : List Char × List Char) : List Char :=
  encodePart pair.1 ++ '=' :: encodePart pair.2

def encode (pairs : List (List Char × List Char)) : List Char :=
  ['&'].intercalate (pairs.map encodePair)

end TrackerTraffic.Form
