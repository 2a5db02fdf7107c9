import TrackerTraffic.Text.CodeTable
import TrackerTraffic.Text.Hex

/-!
# IPv6 addresses

Eight pieces of 16 bits, the last two of which may be written as an IPv4 address; two
colons stand for one or more pieces of zero.
-/

namespace TrackerTraffic.Url.Ipv6

/-- The pieces read so far: those in front of two colons and, if they came, those behind. -/
structure Pieces where
  head : List Nat
  tail : Option (List Nat)

namespace Pieces

/-- The pieces that are taken; two colons take one at least. -/
def count (p : Pieces) : Nat :=
  p.head.length + match p.tail with
    | some behind => behind.length + 1
    | none => 0

def add (p : Pieces) (piece : Nat) : Pieces :=
  match p.tail with
  | some behind => { p with tail := some (behind ++ [piece]) }
  | none => { p with head := p.head ++ [piece] }

def finish? (p : Pieces) : Option (List Nat) :=
  match p.tail with
  | some behind =>
    some (p.head ++ List.replicate (8 - p.head.length - behind.length) 0 ++ behind)
  | none => if p.head.length = 8 then some p.head else none

end Pieces

/-- A decimal number below 256 without leading zeros. -/
def decimal? (cs : List Char) : Option Nat :=
  if cs.isEmpty || !cs.all Char.isDigit || (cs.head? == some '0' && 1 < cs.length) then none
  else
    let n := cs.foldl (fun n c => n * 10 + (c.toNat - 48)) 0
    if n < 256 then some n else none

/-- The two pieces that an IPv4 address spells. -/
def embedded? (cs : List Char) : Option (Nat × Nat) :=
  match (CodeTable.cutAt '.' cs).mapM decimal? with
  | some [a, b, c, d] => some (a * 256 + b, c * 256 + d)
  | _ => none

/-- The hexadecimal digits at the start of a text, four at most. -/
def digits (cs : List Char) : List Char := (cs.take 4).takeWhile fun c => (Text.hexValue? c).isSome

def hexNumber (cs : List Char) : Nat :=
  cs.foldl (fun n c => n * 16 + (Text.hexValue? c).getD 0) 0

/-- Reads pieces to the end of the text. -/
def readFrom (p : Pieces) (cs : List Char) : Option Pieces :=
  if cs.isEmpty then some p
  else if p.count = 8 then none
  else if cs.head? = some ':' then
    if p.tail.isSome then none else readFrom { p with tail := some [] } cs.tail
  else
    let group := digits cs
    match cs.drop group.length with
    | [] => some (p.add (hexNumber group))
    | c :: rest =>
      if c = '.' then
        if group.isEmpty ∨ 6 < p.count then none
        else (embedded? cs).map fun (high, low) => (p.add high).add low
      else if c = ':' ∧ ¬rest.isEmpty then
        readFrom (p.add (hexNumber group)) (cs.drop (group.length + 1))
      else none
termination_by cs.length
decreasing_by
  all_goals
    have : cs.length ≠ 0 := by simp_all
    simp only [List.length_tail, List.length_drop]
    omega

/-- The pieces of the address that a text spells. -/
def read? (cs : List Char) : Option (List Nat) :=
  match cs with
  | ':' :: ':' :: rest => (readFrom ⟨[], some []⟩ rest).bind Pieces.finish?
  | ':' :: _ => none
  | cs => if cs.length < 2 then none else (readFrom ⟨[], none⟩ cs).bind Pieces.finish?

/-! ### Writing -/

def pieceText (piece : Nat) : String := String.ofList (Nat.toDigits 16 piece)

/-- The length of the run of zeros at the start. -/
def zeros (pieces : List Nat) : Nat := (pieces.takeWhile (· == 0)).length

/-- The place and the length of the first of the longest runs of zeros. -/
def longestZeros (pieces : List Nat) : Nat × Nat :=
  (List.range pieces.length).foldl
    (fun best place =>
      let run := zeros (pieces.drop place)
      if best.2 < run then (place, run) else best)
    (0, 0)

def colons (pieces : List Nat) : String := ":".intercalate (pieces.map pieceText)

/-- The address with the longest run of at least two zeros left out. -/
def text (pieces : List Nat) : String :=
  let (place, run) := longestZeros pieces
  if run < 2 then colons pieces
  else colons (pieces.take place) ++ "::" ++ colons (pieces.drop (place + run))

end TrackerTraffic.Url.Ipv6
