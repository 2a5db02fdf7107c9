/-!
# Instants

A date of the Gregorian calendar, carried on before its introduction, and a time
of day in universal time.  A leap second is the 59th second of its minute with
more than `10 ^ 9` nanoseconds.
-/

namespace TrackerTraffic

/-! ### Dates -/

/-- A date. -/
structure Date where
  year : Int
  month : Nat
  day : Nat
deriving DecidableEq

namespace Date

/-- The year has 366 days. -/
def isLeapYear (year : Int) : Bool := year % 4 == 0 && (year % 100 != 0 || year % 400 == 0)

def monthLength (year : Int) (month : Nat) : Nat :=
  if month = 2 then if isLeapYear year then 29 else 28
  else if month = 4 ∨ month = 6 ∨ month = 9 ∨ month = 11 then 30
  else 31

/-- The first year that a date can have. -/
def firstYear : Int := -262143

/-- The last year that a date can have. -/
def lastYear : Int := 262142

/-- The date of a year, month and day, if there is one. -/
def ofParts? (year : Int) (month day : Nat) : Option Date :=
  if firstYear ≤ year ∧ year ≤ lastYear ∧ 1 ≤ month ∧ month ≤ 12 ∧ 1 ≤ day ∧
      day ≤ monthLength year month then
    some ⟨year, month, day⟩
  else none

def next? (d : Date) : Option Date :=
  if d.day < monthLength d.year d.month then some { d with day := d.day + 1 }
  else if d.month < 12 then some ⟨d.year, d.month + 1, 1⟩
  else ofParts? (d.year + 1) 1 1

def previous? (d : Date) : Option Date :=
  if 1 < d.day then some { d with day := d.day - 1 }
  else if 1 < d.month then some ⟨d.year, d.month - 1, monthLength d.year (d.month - 1)⟩
  else ofParts? (d.year - 1) 12 31

end Date

/-! ### Instants -/

/-- A moment: the date, the second of the day, and nanoseconds. -/
structure Instant where
  date : Date
  second : Nat
  nanosecond : Nat
deriving DecidableEq

namespace Instant

/-- The moment at which clocks that are `offset` seconds ahead show a given one. -/
def atOffset? (offset : Int) (clock : Instant) : Option Instant :=
  let second : Int := clock.second - offset
  let date? :=
    if second < 0 then clock.date.previous?
    else if 86400 ≤ second then clock.date.next?
    else some clock.date
  date?.map fun date => { clock with date, second := (second % 86400).toNat }

end Instant

end TrackerTraffic
