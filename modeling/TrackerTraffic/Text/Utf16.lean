/-!
# Sixteen bit units

The number of UTF-16 code units of a text: two for a character beyond U+FFFF.
-/

namespace TrackerTraffic.Utf16

def width (c : Char) : Nat := if c.toNat < 0x10000 then 1 else 2

def length (cs : List Char) : Nat := cs.foldr (fun c n => width c + n) 0

end TrackerTraffic.Utf16
