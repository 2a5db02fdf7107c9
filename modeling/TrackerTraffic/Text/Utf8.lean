import TrackerTraffic.Bytes.Basic

/-!
# UTF-8

`encode` writes a text as bytes and `decode?` reads bytes that are exactly such
an encoding.  `decodeLossy` reads any bytes: a longest prefix of a character's
encoding that breaks off, or a byte that starts none, becomes U+FFFD.
-/

namespace TrackerTraffic.Utf8

/-- The byte of a number below 256. -/
def byte (n : Nat) : UInt8 := UInt8.ofNat n

def encodeChar (c : Char) : Bytes :=
  let n := c.toNat
  if n < 0x80 then [byte n]
  else if n < 0x800 then [byte (0xC0 + n / 64), byte (0x80 + n % 64)]
  else if n < 0x10000 then
    [byte (0xE0 + n / 4096), byte (0x80 + n / 64 % 64), byte (0x80 + n % 64)]
  else
    [byte (0xF0 + n / 262144), byte (0x80 + n / 4096 % 64), byte (0x80 + n / 64 % 64),
      byte (0x80 + n % 64)]

def encode (cs : List Char) : Bytes := cs.flatMap encodeChar

def isTail (b : UInt8) : Bool := 0x80 ≤ b.toNat && b.toNat < 0xC0

/-- The second byte fits the first byte of a three byte encoding. -/
def fitsThree (first second : UInt8) : Bool :=
  let n := second.toNat
  (if first.toNat = 0xE0 then 0xA0 else 0x80) ≤ n &&
    n < (if first.toNat = 0xED then 0xA0 else 0xC0)

/-- The second byte fits the first byte of a four byte encoding. -/
def fitsFour (first second : UInt8) : Bool :=
  let n := second.toNat
  (if first.toNat = 0xF0 then 0x90 else 0x80) ≤ n &&
    n < (if first.toNat = 0xF4 then 0x90 else 0xC0)

def char2 (a b : UInt8) : Char := Char.ofNat ((a.toNat - 0xC0) * 64 + (b.toNat - 0x80))

def char3 (a b c : UInt8) : Char :=
  Char.ofNat ((a.toNat - 0xE0) * 4096 + (b.toNat - 0x80) * 64 + (c.toNat - 0x80))

def char4 (a b c d : UInt8) : Char :=
  Char.ofNat ((a.toNat - 0xF0) * 262144 + (b.toNat - 0x80) * 4096 + (c.toNat - 0x80) * 64 +
    (d.toNat - 0x80))

/-- The text that the bytes encode, if they encode one. -/
def decode? : Bytes → Option (List Char)
  | [] => some []
  | a :: rest =>
    if a.toNat < 0x80 then (decode? rest).map (Char.ofNat a.toNat :: ·)
    else if a.toNat < 0xC2 then none
    else if a.toNat < 0xE0 then
      match rest with
      | b :: rest => if isTail b then (decode? rest).map (char2 a b :: ·) else none
      | _ => none
    else if a.toNat < 0xF0 then
      match rest with
      | b :: c :: rest =>
        if fitsThree a b && isTail c then (decode? rest).map (char3 a b c :: ·) else none
      | _ => none
    else if a.toNat < 0xF5 then
      match rest with
      | b :: c :: d :: rest =>
        if fitsFour a b && isTail c && isTail d then (decode? rest).map (char4 a b c d :: ·)
        else none
      | _ => none
    else none

def replacement : Char := Char.ofNat 0xFFFD

/-- The text of any bytes, with replacement characters where they encode none. -/
def decodeLossy : Bytes → List Char
  | [] => []
  | a :: rest =>
    if a.toNat < 0x80 then Char.ofNat a.toNat :: decodeLossy rest
    else if a.toNat < 0xC2 then replacement :: decodeLossy rest
    else if a.toNat < 0xE0 then
      match rest with
      | b :: after =>
        if isTail b then char2 a b :: decodeLossy after else replacement :: decodeLossy (b :: after)
      | [] => [replacement]
    else if a.toNat < 0xF0 then
      match rest with
      | b :: after =>
        if fitsThree a b then
          match after with
          | c :: after =>
            if isTail c then char3 a b c :: decodeLossy after
            else replacement :: decodeLossy (c :: after)
          | [] => [replacement]
        else replacement :: decodeLossy (b :: after)
      | [] => [replacement]
    else if a.toNat < 0xF5 then
      match rest with
      | b :: after =>
        if fitsFour a b then
          match after with
          | c :: after =>
            if isTail c then
              match after with
              | d :: after =>
                if isTail d then char4 a b c d :: decodeLossy after
                else replacement :: decodeLossy (d :: after)
              | [] => [replacement]
            else replacement :: decodeLossy (c :: after)
          | [] => [replacement]
        else replacement :: decodeLossy (b :: after)
      | [] => [replacement]
    else replacement :: decodeLossy rest


end TrackerTraffic.Utf8
