/-!
# Blank characters

`isBlank` is the Unicode property White_Space; `trim` cuts blank characters from
both ends of a text.
-/

namespace TrackerTraffic.Text

def isBlank (c : Char) : Bool :=
  let n := c.toNat
  (9 ≤ n && n ≤ 13) || n == 0x20 || n == 0x85 || n == 0xA0 || n == 0x1680 ||
    (0x2000 ≤ n && n ≤ 0x200A) || n == 0x2028 || n == 0x2029 || n == 0x202F || n == 0x205F ||
    n == 0x3000

/-- The text without blank characters at its start. -/
def trimStart (cs : List Char) : List Char := cs.dropWhile isBlank

/-- The text without blank characters at its end. -/
def trimEnd (cs : List Char) : List Char := (cs.reverse.dropWhile isBlank).reverse

/-- The text without blank characters at its ends. -/
def trim (cs : List Char) : List Char := trimEnd (trimStart cs)

end TrackerTraffic.Text
