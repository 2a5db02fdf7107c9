import TrackerTraffic.Number.Binary64

/-!
# Decimal literals of binary64 numbers

A literal has an optional sign and then digits with an optional point and an
optional exponent, or the word `inf`, `infinity` or `nan` in any case.  At least
one digit stands before or behind the point.  The value is the nearest number.
-/

namespace TrackerTraffic.Binary64

/-- A literal's sign and the rest of it. -/
def splitSign : List Char → Bool × List Char
  | '-' :: rest => (true, rest)
  | '+' :: rest => (false, rest)
  | rest => (false, rest)

def splitDigits (cs : List Char) : List Char × List Char :=
  (cs.takeWhile Char.isDigit, cs.dropWhile Char.isDigit)

def digitsValue (digits : List Char) : Nat :=
  digits.foldl (fun n c => n * 10 + (c.toNat - 48)) 0

/-- The exponent at the end of a literal, zero if there is none. -/
def exponentValue? : List Char → Option Int
  | [] => some 0
  | c :: rest =>
    if c = 'e' ∨ c = 'E' then
      let (negative, rest) := splitSign rest
      let (digits, rest) := splitDigits rest
      if digits.isEmpty || !rest.isEmpty then none
      else some (if negative then -(digitsValue digits : Int) else digitsValue digits)
    else none

def parseUnsigned? (negative : Bool) (cs : List Char) : Option Binary64 :=
  let word := cs.map Char.toLower
  if word = "inf".toList ∨ word = "infinity".toList then some (infinity negative)
  else if word = "nan".toList then some nan
  else
    let (whole, rest) := splitDigits cs
    let (fraction, rest) :=
      match rest with
      | '.' :: rest => splitDigits rest
      | rest => ([], rest)
    if whole.isEmpty && fraction.isEmpty then none
    else
      (exponentValue? rest).map fun exponent =>
        ofDecimal negative (digitsValue (whole ++ fraction)) (exponent - fraction.length)

/-- The value of a literal, `none` if the text is none. -/
def parse? (cs : List Char) : Option Binary64 :=
  let (negative, rest) := splitSign cs
  parseUnsigned? negative rest

end TrackerTraffic.Binary64
