import TrackerTraffic.Bytes.Basic

/-!
# Base64

The writer has the standard alphabet, with or without padding.  The reader is
lenient: it takes the URL alphabet too, skips ASCII white space, takes any part
of the padding that belongs at the end, and ignores surplus bits.
-/

namespace TrackerTraffic.Base64

/-! ### Writing -/

/-- The letter of a number below 64. -/
def letter (n : Nat) : Char :=
  if n < 26 then Char.ofNat (65 + n)
  else if n < 52 then Char.ofNat (71 + n)
  else if n < 62 then Char.ofNat (n - 4)
  else if n = 62 then '+'
  else '/'

/-- The letters of a byte sequence, without padding. -/
def encodeUnpadded : Bytes → List Char
  | [] => []
  | [a] => [letter (a.toNat / 4), letter (a.toNat % 4 * 16)]
  | [a, b] =>
    [letter (a.toNat / 4), letter (a.toNat % 4 * 16 + b.toNat / 16), letter (b.toNat % 16 * 4)]
  | a :: b :: c :: rest =>
    letter (a.toNat / 4) :: letter (a.toNat % 4 * 16 + b.toNat / 16) ::
      letter (b.toNat % 16 * 4 + c.toNat / 64) :: letter (c.toNat % 64) :: encodeUnpadded rest

/-- The padding behind the letters of so many bytes. -/
def padding (count : Nat) : List Char := List.replicate ((3 - count % 3) % 3) '='

/-- The letters of a byte sequence and their padding. -/
def encode (bytes : Bytes) : List Char := encodeUnpadded bytes ++ padding bytes.length

/-! ### Reading -/

/-- The number of a letter of the standard alphabet. -/
def letterValue? (c : Char) : Option Nat :=
  if 'A' ≤ c ∧ c ≤ 'Z' then some (c.toNat - 65)
  else if 'a' ≤ c ∧ c ≤ 'z' then some (c.toNat - 71)
  else if '0' ≤ c ∧ c ≤ '9' then some (c.toNat + 4)
  else if c = '+' then some 62
  else if c = '/' then some 63
  else none

def isSpace (c : Char) : Bool :=
  c == ' ' || c == '\t' || c == '\n' || c == '\x0c' || c == '\r'

/-- The standard letter for a letter of the URL alphabet. -/
def standardize (c : Char) : Char :=
  if c = '-' then '+' else if c = '_' then '/' else c

/-- So many signs of padding may follow so many letters. -/
def paddingFits (letters signs : Nat) : Bool :=
  match letters % 4 with
  | 0 => signs == 0
  | 2 => signs ≤ 2
  | 3 => signs ≤ 1
  | _ => false

/-- The bytes of letter values; surplus bits of the last one are dropped. -/
def joinSextets : List Nat → Bytes
  | a :: b :: c :: d :: rest =>
    UInt8.ofNat (a * 4 + b / 16) :: UInt8.ofNat (b % 16 * 16 + c / 4) ::
      UInt8.ofNat (c % 4 * 64 + d) :: joinSextets rest
  | [a, b, c] => [UInt8.ofNat (a * 4 + b / 16), UInt8.ofNat (b % 16 * 16 + c / 4)]
  | [a, b] => [UInt8.ofNat (a * 4 + b / 16)]
  | _ => []

/-- The values of letters, all of which have to be in the alphabet. -/
def letterValues? : List Char → Option (List Nat)
  | [] => some []
  | c :: rest => do return (← letterValue? c) :: (← letterValues? rest)

def decode? (cs : List Char) : Option Bytes := do
  let spelled := (cs.filter (!isSpace ·)).map standardize
  let letters := spelled.takeWhile (· != '=')
  let signs := spelled.dropWhile (· != '=')
  if !signs.all (· == '=') || !paddingFits letters.length signs.length then none
  else return joinSextets (← letterValues? letters)

end TrackerTraffic.Base64
