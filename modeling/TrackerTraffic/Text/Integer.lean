import TrackerTraffic.Number.Power

/-!
# Decimal integers in text

Integers of 64 bits as they are written in names and indices: an optional sign
and ASCII digits, with nothing around them.
-/

namespace TrackerTraffic.Text

/-- The number of a nonempty sequence of ASCII digits. -/
def digits? (cs : List Char) : Option Nat :=
  if cs.isEmpty || !cs.all Char.isDigit then none
  else some (cs.foldl (fun n c => n * 10 + (c.toNat - 48)) 0)

/-- The number with digits below `2 ^ 64`, a plus sign allowed in front. -/
def unsigned? (cs : List Char) : Option Nat :=
  let digits := match cs with
    | '+' :: rest => rest
    | cs => cs
  match digits? digits with
  | some n => if n < pow2 64 then some n else none
  | none => none

/-- The integer from `-2 ^ 63` to below `2 ^ 63`, a sign allowed in front. -/
def signed? (cs : List Char) : Option Int :=
  match cs with
  | '-' :: rest =>
    match digits? rest with
    | some n => if n ≤ pow2 63 then some (-(n : Int)) else none
    | none => none
  | '+' :: rest =>
    match digits? rest with
    | some n => if n < pow2 63 then some n else none
    | none => none
  | cs =>
    match digits? cs with
    | some n => if n < pow2 63 then some n else none
    | none => none

end TrackerTraffic.Text
