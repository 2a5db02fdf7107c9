import TrackerTraffic.Json.Basic
import TrackerTraffic.Number.Power

/-!
# Numerals in JSON text

A numeral is scanned into its parts (`Numeral.scan?`) and then valued
(`Numeral.value?`).  An integer of 64 bits is exact.  Any other numeral is a
significand of at most 64 bits, the leading digits that fit, scaled by powers
of ten: one rounded multiplication, or rounded divisions by at most `10 ^ 308`
each.
-/

namespace TrackerTraffic.Json

/-- A numeral's parts; the fraction and the exponent are absent unless written. -/
structure Numeral where
  negative : Bool
  whole : List Nat
  fraction : Option (List Nat)
  exponent : Option (Bool × List Nat)

namespace Numeral

/-! ### Scanning -/

def digit? (c : Char) : Option Nat :=
  if '0' ≤ c ∧ c ≤ '9' then some (c.toNat - 48) else none

/-- The longest run of digits and what follows it. -/
def scanDigits : List Char → List Nat × List Char
  | [] => ([], [])
  | c :: rest =>
    match digit? c with
    | some d => ((d :: (scanDigits rest).1), (scanDigits rest).2)
    | none => ([], c :: rest)

/-- An integer part: a lone zero, or digits that start with another digit. -/
def scanWhole? (cs : List Char) : Option (List Nat × List Char) :=
  match scanDigits cs with
  | ([], _) => none
  | (0 :: _ :: _, _) => none
  | (digits, rest) => some (digits, rest)

/-- An optional fraction; a point without a digit is refused. -/
def scanFraction? : List Char → Option (Option (List Nat) × List Char)
  | '.' :: rest =>
    match scanDigits rest with
    | ([], _) => none
    | (digits, rest) => some (some digits, rest)
  | rest => some (none, rest)

/-- The digits of an exponent with the given sign; at least one is needed. -/
def scanPower? (negative : Bool) (cs : List Char) :
    Option (Option (Bool × List Nat) × List Char) :=
  match scanDigits cs with
  | ([], _) => none
  | (digits, rest) => some (some (negative, digits), rest)

/-- An optional exponent, its sign optional. -/
def scanExponent? : List Char → Option (Option (Bool × List Nat) × List Char)
  | c :: rest =>
    if c = 'e' ∨ c = 'E' then
      match rest with
      | '+' :: rest => scanPower? false rest
      | '-' :: rest => scanPower? true rest
      | rest => scanPower? false rest
    else some (none, c :: rest)
  | [] => some (none, [])

def scanUnsigned? (negative : Bool) (cs : List Char) : Option (Numeral × List Char) := do
  let (whole, cs) ← scanWhole? cs
  let (fraction, cs) ← scanFraction? cs
  let (exponent, cs) ← scanExponent? cs
  return (⟨negative, whole, fraction, exponent⟩, cs)

def scan? : List Char → Option (Numeral × List Char)
  | '-' :: rest => scanUnsigned? true rest
  | cs => scanUnsigned? false cs

/-! ### Value -/

def ofDigits (digits : List Nat) : Nat := digits.foldl (fun n d => n * 10 + d) 0

/-- Appends digits to a significand while it fits into 64 bits; also the digits that did not fit. -/
def appendDigits (significand : Nat) : List Nat → Nat × List Nat
  | [] => (significand, [])
  | d :: rest =>
    if significand * 10 + d < pow2 64 then appendDigits (significand * 10 + d) rest
    else (significand, d :: rest)

/-- Clamps a number to the range of 32 bits. -/
def clamp32 (n : Int) : Int := max (-pow2 31) (min (pow2 31 - 1) n)

/-- `10 ^ exponent`, rounded, for an exponent of at most 308. -/
def powerOfTen (exponent : Nat) : Binary64 := Binary64.ofDecimal false 1 exponent

/-- `significand * 10 ^ (-exponent)` by rounded divisions of at most `10 ^ 308` each. -/
def divideBy (x : Binary64) (exponent : Nat) : Binary64 :=
  if exponent ≤ 308 then (x.div? (powerOfTen exponent)).getD x
  else if x.isZero then x
  else divideBy ((x.div? (powerOfTen 308)).getD x) (exponent - 308)
termination_by exponent

/-- A significand times a power of ten; `none` if it overflows. -/
def scale? (significand : Nat) (exponent : Int) : Option Binary64 :=
  let x := Binary64.ofWord significand
  if exponent < 0 then some (divideBy x exponent.natAbs)
  else if exponent ≤ 308 then x.mul? (powerOfTen exponent.natAbs)
  else if significand = 0 then some x
  else none

/-- A significand times a power of ten, and the written exponent on top of it. -/
def scaleBy? (significand : Nat) (exponent : Int) :
    Option (Bool × List Nat) → Option Binary64
  | none => scale? significand exponent
  | some (negative, digits) =>
    let power := ofDigits digits
    if power < pow2 31 then
      scale? significand (clamp32 (if negative then exponent - power else exponent + power))
    else if significand ≠ 0 ∧ !negative then none
    else some (Binary64.zero false)

/-- The magnitude of a numeral that is not an exact integer. -/
def magnitude? (n : Numeral) : Option Binary64 :=
  let (significand, dropped) := appendDigits 0 n.whole
  match n.fraction with
  | none => scaleBy? significand dropped.length n.exponent
  | some digits =>
    let (extended, unused) := appendDigits significand digits
    let used := digits.length - unused.length
    scaleBy? extended ((dropped.length : Int) - used) n.exponent

/-- The number a numeral stands for; `none` if it is beyond the finite range. -/
def value? (n : Numeral) : Option Number :=
  let integer := ofDigits n.whole
  if n.fraction.isNone ∧ n.exponent.isNone ∧ !n.negative ∧ integer < pow2 64 then
    some (.integer integer)
  else if n.fraction.isNone ∧ n.exponent.isNone ∧ n.negative ∧ 0 < integer ∧ integer ≤ pow2 63 then
    some (.integer (-(integer : Int)))
  else
    n.magnitude?.map fun x => .float (if n.negative then x.neg else x)

end Numeral

end TrackerTraffic.Json
