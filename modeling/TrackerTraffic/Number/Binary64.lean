import TrackerTraffic.Number.Power

/-!
# Binary floating point numbers of 64 bits

An IEEE 754 binary64 number is held as its 64 bits.  Its value is read as an
integer multiple of `2 ^ (-1074)`, the smallest positive magnitude, so
comparing, multiplying and dividing are exact computations on integers
followed by one rounding to nearest, ties to even (`ofRatio?`).
-/

namespace TrackerTraffic

/-- A binary64 number, by its bits. -/
structure Binary64 where
  bits : UInt64
deriving DecidableEq, Inhabited

namespace Binary64

/-! ### Fields -/

def isNegative (x : Binary64) : Bool := pow2 63 ≤ x.bits.toNat

def exponentBits (x : Binary64) : Nat := x.bits.toNat / pow2 52 % pow2 11

def fraction (x : Binary64) : Nat := x.bits.toNat % pow2 52

def isFinite (x : Binary64) : Bool := x.exponentBits != 2047

def isNaN (x : Binary64) : Bool := x.exponentBits == 2047 && x.fraction != 0

def significand (x : Binary64) : Nat :=
  if x.exponentBits = 0 then x.fraction else pow2 52 + x.fraction

/-- The significand counts multiples of `2 ^ (unit - 1074)`. -/
def unit (x : Binary64) : Nat := x.exponentBits - 1

/-- The magnitude in multiples of `2 ^ (-1074)`; an infinity counts as `2 ^ 1024`. -/
def magnitude (x : Binary64) : Nat := x.significand * pow2 x.unit

/-- The value in multiples of `2 ^ (-1074)`. -/
def scaled (x : Binary64) : Int := if x.isNegative then -(x.magnitude : Int) else x.magnitude

/-! ### Construction by rounding -/

/-- The number with the given sign and the magnitude bits below it. -/
def ofParts (negative : Bool) (magnitudeBits : Nat) : Binary64 :=
  ⟨UInt64.ofNat ((if negative then pow2 63 else 0) + magnitudeBits)⟩

def zero (negative : Bool) : Binary64 := ofParts negative 0

def infinity (negative : Bool) : Binary64 := ofParts negative (2047 * pow2 52)

def nan : Binary64 := ofParts false (2047 * pow2 52 + pow2 51)

/-- The natural number nearest to `a / d`, a tie going to the even one. -/
def nearestEven (a d : Nat) : Nat :=
  let q := a / d
  let r := a % d
  if 2 * r < d then q
  else if d < 2 * r then q + 1
  else if q % 2 = 0 then q else q + 1

/--
The number nearest to `num / den` with the given sign, a tie going to the even
significand; `none` if the magnitude rounds to `2 ^ 1024` or more.
-/
def ofRatio? (negative : Bool) (num den : Nat) : Option Binary64 :=
  let a := num * pow2 1074
  let unit := Nat.log2 (a / den) - 52
  let bits := unit * pow2 52 + nearestEven a (den * pow2 unit)
  if bits < 2047 * pow2 52 then some (ofParts negative bits) else none

/-- The number nearest to an integer; `none` beyond the finite range. -/
def ofInt? (n : Int) : Option Binary64 := ofRatio? (n < 0) n.natAbs 1

/-- The number nearest to a natural number of at most 64 bits. -/
def ofWord (n : Nat) : Binary64 := (ofRatio? false n 1).getD (zero false)

/--
The number nearest to `digits * 10 ^ exponent`; an overflow gives infinity.
The two outer cases keep the powers of ten small and agree with the rounding.
-/
def ofDecimal (negative : Bool) (digits : Nat) (exponent : Int) : Binary64 :=
  let top : Int := (Nat.toDigits 10 digits).length + exponent
  if digits = 0 ∨ top < -330 then zero negative
  else if 310 < top then infinity negative
  else
    (ofRatio? negative (digits * pow10 exponent.toNat) (pow10 (-exponent).toNat)).getD
      (infinity negative)

/-! ### Arithmetic and order -/

def neg (x : Binary64) : Binary64 := ofParts (!x.isNegative) (x.bits.toNat % pow2 63)

/-- The rounded product of two finite numbers; `none` if it overflows. -/
def mul? (x y : Binary64) : Option Binary64 :=
  ofRatio? (x.isNegative != y.isNegative) (x.magnitude * y.magnitude) (pow2 2148)

/-- The rounded quotient of finite numbers; `none` if it overflows or the divisor is zero. -/
def div? (x y : Binary64) : Option Binary64 :=
  if y.magnitude = 0 then none
  else ofRatio? (x.isNegative != y.isNegative) x.magnitude y.magnitude

/-- The value is zero, of either sign. -/
def isZero (x : Binary64) : Bool := x.magnitude == 0

/-- The order of two values; a NaN has no order, and the two zeros are equal. -/
def compare (x y : Binary64) : Option Ordering :=
  if x.isNaN || y.isNaN then none else some (Ord.compare x.scaled y.scaled)

/-- Equality of values, false for a NaN. -/
def valueEq (x y : Binary64) : Bool := x.compare y == some .eq

end Binary64

end TrackerTraffic
