import TrackerTraffic.Bytes.Inflate
import TrackerTraffic.Number.Power

/-!
# Gzip members

`Gzip.decode?` reads the first member of a gzip stream: its header, the deflated
data, and the check sum and length behind them, which have to agree with the
data.  What follows the member is not looked at.
-/

namespace TrackerTraffic.Gzip

/-! ### Check sum -/

def crcShift (crc : Nat) : Nat :=
  if crc % 2 = 1 then (crc / 2) ^^^ 0xEDB88320 else crc / 2

def crcByte (crc : Nat) (b : UInt8) : Nat :=
  (List.range 8).foldl (fun crc _ => crcShift crc) (crc ^^^ b.toNat)

/-- The 32 bit cyclic redundancy check of a byte sequence. -/
def crc32 (bytes : Bytes) : Nat :=
  bytes.foldl crcByte 0xFFFFFFFF ^^^ 0xFFFFFFFF

/-! ### Header -/

def skipText? : Bytes → Option Bytes
  | [] => none
  | b :: rest => if b = 0 then some rest else skipText? rest

def skip? (count : Nat) (bytes : Bytes) : Option Bytes :=
  if bytes.length < count then none else some (bytes.drop count)

/-- The flag of the given weight is set. -/
def hasFlag (flags : UInt8) (weight : Nat) : Bool := flags.toNat / weight % 2 == 1

/-- One of the three flags that are reserved is set; a header with one is refused. -/
def hasReserved (flags : UInt8) : Bool := flags.toNat / 32 != 0

/-- The extra field, if the flags announce one. -/
def skipExtra? (flags : UInt8) (bytes : Bytes) : Option Bytes :=
  if hasFlag flags 4 then
    match bytes with
    | low :: high :: rest => skip? (Bytes.littleEndian [low, high]) rest
    | _ => none
  else some bytes

/-- The header's own check sum, if the flags announce one; it covers all bytes before it. -/
def skipCheck? (flags : UInt8) (header bytes : Bytes) : Option Bytes :=
  if hasFlag flags 2 then
    match bytes with
    | low :: high :: rest =>
      let covered := header.take (header.length - bytes.length)
      if Bytes.littleEndian [low, high] = crc32 covered % pow2 16 then some rest else none
    | _ => none
  else some bytes

def skipHeader? (bytes : Bytes) : Option Bytes :=
  match bytes with
  | 0x1F :: 0x8B :: 0x08 :: flags :: _ :: _ :: _ :: _ :: _ :: _ :: rest => do
    if hasReserved flags then none
    let rest ← skipExtra? flags rest
    let rest ← if hasFlag flags 8 then skipText? rest else some rest
    let rest ← if hasFlag flags 16 then skipText? rest else some rest
    skipCheck? flags bytes rest
  | _ => none

/-! ### Members -/

def decode? (bytes : Bytes) : Option Bytes := do
  let deflated ← skipHeader? bytes
  let (data, rest) ← Inflate.inflate? deflated
  let crc := rest.take 4
  let size := (rest.drop 4).take 4
  if rest.length < 8 then none
  if Bytes.littleEndian crc ≠ crc32 data ∨ Bytes.littleEndian size ≠ data.length % pow2 32 then none
  return data

end TrackerTraffic.Gzip
