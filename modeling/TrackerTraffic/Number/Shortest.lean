import TrackerTraffic.Number.Binary64
import TrackerTraffic.Number.Power

/-!
# Shortest decimal text of a binary64 number

A finite number is written with the fewest significant digits that read back
as the same number and, of those, the ones nearest to it.  `shortestDigits`
finds them in exact arithmetic; `text` decides where positional notation ends.
-/

namespace TrackerTraffic.Binary64

/-! ### Digits -/


/--
The reals that round to a number, as multiples of `2 ^ (-1076)`: the number
itself, its lower and its upper end, and whether the ends belong to them.
-/
structure Interval where
  middle : Nat
  lower : Nat
  upper : Nat
  closed : Bool

/-- The rounding interval of the magnitude of a finite number. -/
def interval (x : Binary64) : Interval :=
  let m := x.significand
  let scale := pow2 x.unit
  { middle := 4 * m * scale
    lower := (if m = pow2 52 ∧ 0 < x.unit then 4 * m - 1 else 4 * m - 2) * scale
    upper := (4 * m + 2) * scale
    closed := m % 2 = 0 }

/-- The point `q / (2 ^ 1076 * den)` belongs to the interval. -/
def Interval.contains (i : Interval) (q den : Nat) : Bool :=
  (i.lower * den < q && q < i.upper * den) ||
    (i.closed && (q == i.lower * den || q == i.upper * den))

/-- The least `p` with the magnitude below `10 ^ p`, for a finite magnitude above zero. -/
def decimalPoint (x : Binary64) : Int :=
  ((Nat.toDigits 10 (x.magnitude * pow10 330 / pow2 1074)).length : Int) - 330

/-- The nearer grid point of `10 ^ exponent` to the magnitude that rounds to it, if there is one. -/
def gridPoint? (x : Binary64) (exponent : Int) : Option Nat :=
  let i := x.interval
  let num := pow10 exponent.toNat * pow2 1076
  let den := pow10 (-exponent).toNat
  let q := i.middle * den / num
  let below := i.contains (q * num) den
  let above := i.contains ((q + 1) * num) den
  let twice := 2 * (i.middle * den - q * num)
  if below && above then
    some (if twice < num then q else if num < twice then q + 1 else if q % 2 = 0 then q else q + 1)
  else if below then some q
  else if above then some (q + 1)
  else none

/-- The first grid with a hit, trying `count` digits and then one more, `tries` times. -/
def searchDigits (x : Binary64) (point : Int) : Nat → Nat → Nat × Int
  | 0, count => ((x.gridPoint? (point - count)).getD 0, point - count)
  | tries + 1, count =>
    match x.gridPoint? (point - count) with
    | some q => (q, point - count)
    | none => searchDigits x point tries (count + 1)

/-- The digits of a natural number and the same digits without trailing zeros. -/
def stripZeros (digits : List Char) : List Char :=
  (digits.reverse.dropWhile (· == '0')).reverse

/-- The shortest digits of a finite nonzero magnitude, with the position of the point. -/
def shortestDigits (x : Binary64) : List Char × Int :=
  let (q, exponent) := x.searchDigits x.decimalPoint 16 1
  let written := Nat.toDigits 10 q
  (stripZeros written, (written.length : Int) + exponent)

/-! ### Notation -/

/-- The digits laid out with the point after the first `point` of them. -/
def layout (digits : List Char) (point : Int) : List Char :=
  let count : Int := digits.length
  if 0 < point ∧ point ≤ 16 then
    if count ≤ point then
      digits ++ List.replicate (point - count).toNat '0' ++ ['.', '0']
    else
      digits.take point.toNat ++ '.' :: digits.drop point.toNat
  else if -5 < point ∧ point ≤ 0 then
    ['0', '.'] ++ List.replicate (-point).toNat '0' ++ digits
  else
    let exponent := point - 1
    let shown :=
      'e' :: (if exponent < 0 then '-' else '+') :: Nat.toDigits 10 exponent.natAbs
    match digits with
    | [] => shown
    | [d] => d :: shown
    | d :: rest => d :: '.' :: rest ++ shown

/--
The text of a finite number: a point always, positional notation from `0.00001`
up to below `10 ^ 16`, and otherwise an exponent that carries its sign.
-/
def text (x : Binary64) : String :=
  let sign := if x.isNegative then ['-'] else []
  if x.isZero then String.ofList (sign ++ ['0', '.', '0'])
  else
    let (digits, point) := x.shortestDigits
    String.ofList (sign ++ layout digits point)

end TrackerTraffic.Binary64
