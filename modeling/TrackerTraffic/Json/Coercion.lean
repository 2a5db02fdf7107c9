import TrackerTraffic.Json.Printer
import TrackerTraffic.Number.Literal
import TrackerTraffic.Text.Blank

/-!
# Values as conditions, texts and numbers

How a JSON value counts where a condition, a text or a number is wanted.
-/

namespace TrackerTraffic.Json

/-- The number counts as a true condition: it is neither zero nor a NaN. -/
def Number.isTruthy (n : Number) : Bool := !n.toBinary64.isZero && !n.toBinary64.isNaN

def isTruthy : Json → Bool
  | null => false
  | bool b => b
  | number n => n.isTruthy
  | string s => s ≠ ""
  | array _ => true
  | object _ => true

/-- The value as text: a string as it is, any other value in JSON. -/
def text : Json → String
  | string s => s
  | v => v.compact

/-- The number a scalar stands for; blank text stands for zero. -/
def toNumber? : Json → Option Binary64
  | number n => some n.toBinary64
  | bool b => some (Binary64.ofWord b.toNat)
  | null => some (Binary64.zero false)
  | string s =>
    let trimmed := Text.trim s.toList
    if trimmed.isEmpty then some (Binary64.zero false) else Binary64.parse? trimmed
  | array _ => none
  | object _ => none

end TrackerTraffic.Json
