/-!
# Powers

Powers of two and of ten, which bound words and scale decimal fractions.
-/

namespace TrackerTraffic

def pow2 (exponent : Nat) : Nat := Nat.pow 2 exponent

def pow10 (exponent : Nat) : Nat := Nat.pow 10 exponent

end TrackerTraffic
