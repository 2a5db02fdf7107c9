import TrackerTraffic.Instant.Basic

/-!
# The text of an instant

Universal time by RFC 3339 with as many fraction digits as are needed, in groups
of three.
-/

namespace TrackerTraffic

/-- The decimal digits of a number, filled up with zeros in front. -/
def paddedDigits (width n : Nat) : String :=
  let digits := toString n
  String.ofList (List.replicate (width - digits.length) '0') ++ digits

namespace Instant

/-- A year; outside of four digits it has a sign. -/
def yearText (year : Int) : String :=
  if year < 0 then "-" ++ paddedDigits 4 year.natAbs
  else if year ≤ 9999 then paddedDigits 4 year.toNat
  else "+" ++ toString year

/-- Three, six or nine fraction digits, or none. -/
def fractionText (nanosecond : Nat) : String :=
  if nanosecond = 0 then ""
  else if nanosecond % 1000000 = 0 then "." ++ paddedDigits 3 (nanosecond / 1000000)
  else if nanosecond % 1000 = 0 then "." ++ paddedDigits 6 (nanosecond / 1000)
  else "." ++ paddedDigits 9 nanosecond

def text (t : Instant) : String :=
  let leap := t.nanosecond / 1000000000
  yearText t.date.year ++ "-" ++ paddedDigits 2 t.date.month ++ "-" ++ paddedDigits 2 t.date.day ++
    "T" ++ paddedDigits 2 (t.second / 3600) ++ ":" ++ paddedDigits 2 (t.second / 60 % 60) ++ ":" ++
    paddedDigits 2 (t.second % 60 + leap) ++ fractionText (t.nanosecond % 1000000000) ++ "Z"

end Instant

end TrackerTraffic
