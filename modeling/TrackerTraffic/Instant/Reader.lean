import TrackerTraffic.Instant.Basic
import TrackerTraffic.Number.Power
import TrackerTraffic.Text.Blank

/-!
# Reading instants

`Instant.readStrict` takes the date and time of RFC 3339.  `Instant.readRelaxed`
also takes blanks between the parts, fewer digits, years with a sign, `UTC` for
the offset and an offset without a colon.
-/

namespace TrackerTraffic

/-- Why a text is no date and time. -/
inductive InstantError where
  | outOfRange
  | impossible
  | malformed
  | tooShort
  | trailing
deriving DecidableEq

def InstantError.message : InstantError → String
  | .outOfRange => "input is out of range"
  | .impossible => "no possible date and time matching input"
  | .malformed => "input contains invalid characters"
  | .tooShort => "premature end of input"
  | .trailing => "trailing input"

namespace Instant

/-! ### Parts of the text -/

/-- At least `least` and, if it is bounded, at most `most` digits. -/
def scanNumber (least : Nat) (most : Option Nat) (cs : List Char) :
    Except InstantError (Nat × List Char) :=
  let window := match most with
    | some m => cs.take m
    | none => cs
  let digits := window.takeWhile Char.isDigit
  if digits.length < least then .error (if window.length < least then .tooShort else .malformed)
  else .ok (digits.foldl (fun n c => n * 10 + (c.toNat - 48)) 0, cs.drop digits.length)

def scanBounded (least : Nat) (low high : Nat) (cs : List Char) :
    Except InstantError (Nat × List Char) := do
  let (n, rest) ← scanNumber least (some 2) cs
  if low ≤ n ∧ n ≤ high then .ok (n, rest) else .error .outOfRange

def scanSign (sign : Char) : List Char → Except InstantError (List Char)
  | [] => .error .tooShort
  | c :: rest => if c = sign then .ok rest else .error .malformed

def scanSeparator : List Char → Except InstantError (List Char)
  | [] => .error .tooShort
  | c :: rest => if c = 'T' ∨ c = 't' ∨ c = ' ' then .ok rest else .error .malformed

/-- The nanoseconds of fraction digits; digits beyond the ninth do not count. -/
def scanFraction (cs : List Char) : Except InstantError (Nat × List Char) :=
  match cs with
  | '.' :: rest => do
    let (n, after) ← scanNumber 1 (some 9) rest
    return (n * pow10 (9 - (rest.length - after.length)), after.dropWhile Char.isDigit)
  | cs => .ok (0, cs)

/-- Two digits; a single character that takes two bytes counts as two wrong digits. -/
def scanPair : List Char → Except InstantError ((Nat × Nat) × List Char)
  | c :: d :: rest =>
    if c.isDigit && d.isDigit then .ok ((c.toNat - 48, d.toNat - 48), rest) else .error .malformed
  | [c] => .error (if c.toNat < 0x80 then .tooShort else .malformed)
  | [] => .error .tooShort

/-- Hours and minutes behind the sign of an offset, in seconds. -/
def scanOffsetTime (separator : List Char → Except InstantError (List Char)) (cs : List Char) :
    Except InstantError (Int × List Char) := do
  let ((h₁, h₂), rest) ← scanPair cs
  let ((m₁, m₂), rest) ← scanPair (← separator rest)
  if 5 < m₁ then .error .outOfRange
  else .ok ((((h₁ * 10 + h₂) * 60 + m₁ * 10 + m₂) * 60 : Nat), rest)

/-- The offset of a clock from universal time, in seconds. -/
def scanOffset (separator : List Char → Except InstantError (List Char)) :
    List Char → Except InstantError (Int × List Char)
  | [] => .error .tooShort
  | c :: rest =>
    if c = 'Z' ∨ c = 'z' then .ok (0, rest)
    else if c = '+' then scanOffsetTime separator rest
    else if c = '-' ∨ c = '\u2212' then
      (scanOffsetTime separator rest).map fun (seconds, rest) => (-seconds, rest)
    else .error .malformed

/-! ### Putting the parts together -/

/-- What a text says: a date and a time on a clock with an offset. -/
structure Parts where
  year : Int
  month : Nat
  day : Nat
  hour : Nat
  minute : Nat
  second : Nat
  nanosecond : Nat
  offset : Int

/-- The instant that the parts denote; a sixtieth second is a leap second. -/
def ofParts (p : Parts) : Except InstantError Instant :=
  match Date.ofParts? p.year p.month p.day with
  | none => .error .outOfRange
  | some date =>
    let leap := p.second / 60
    let clock : Instant :=
      ⟨date, (p.hour * 60 + p.minute) * 60 + (p.second - leap), p.nanosecond + leap * 1000000000⟩
    if p.offset ≤ -86400 ∨ 86400 ≤ p.offset then .error .outOfRange
    else
      match atOffset? p.offset clock with
      | some t => .ok t
      | none => .error .impossible

/-- The greatest offset, in seconds, that RFC 3339 can write with hours below 24. -/
def greatestOffset : Int := 23 * 3600 + 59 * 60

/-- Reads a date and time in the form of RFC 3339. -/
def readStrict (text : String) : Except InstantError Instant := do
  let (year, cs) ← scanNumber 4 (some 4) text.toList
  let (month, cs) ← scanBounded 2 1 12 (← scanSign '-' cs)
  let (day, cs) ← scanBounded 2 1 31 (← scanSign '-' cs)
  let (hour, cs) ← scanBounded 2 0 23 (← scanSeparator cs)
  let (minute, cs) ← scanBounded 2 0 59 (← scanSign ':' cs)
  let (second, cs) ← scanBounded 2 0 60 (← scanSign ':' cs)
  let (nanosecond, cs) ← scanFraction cs
  let (offset, cs) ← scanOffset (scanSign ':') cs
  if offset < -greatestOffset ∨ greatestOffset < offset then .error .outOfRange
  else if !cs.isEmpty then .error .trailing
  else ofParts ⟨year, month, day, hour, minute, second, nanosecond, offset⟩

/-- A year: up to four digits, or any number of digits behind a sign. -/
def scanYear (cs : List Char) : Except InstantError (Int × List Char) := do
  let (year, rest) ← match cs with
    | '-' :: rest => (scanNumber 1 none rest).map fun (n, rest) => (-(n : Int), rest)
    | '+' :: rest => (scanNumber 1 none rest).map fun (n, rest) => ((n : Int), rest)
    | cs => (scanNumber 1 (some 4) cs).map fun (n, rest) => ((n : Int), rest)
  if -pow2 31 ≤ year ∧ year < pow2 31 then .ok (year, rest) else .error .outOfRange

def skipColons (cs : List Char) : Except InstantError (List Char) :=
  .ok (cs.dropWhile fun c => c == ':' || Text.isBlank c)

/-- An offset, for which `UTC` may stand too. -/
def scanRelaxedOffset (cs : List Char) : Except InstantError (Int × List Char) :=
  if (cs.take 3).map Char.toUpper = ['U', 'T', 'C'] then .ok (0, cs.drop 3)
  else scanOffset skipColons cs

/-- Reads a date and time whose parts may have blanks between them. -/
def readRelaxed (text : String) : Except InstantError Instant := do
  let (year, cs) ← scanYear (Text.trimStart text.toList)
  let cs ← scanSign '-' (Text.trimStart cs)
  let (month, cs) ← scanBounded 1 1 12 (Text.trimStart cs)
  let cs ← scanSign '-' (Text.trimStart cs)
  let (day, cs) ← scanBounded 1 1 31 (Text.trimStart cs)
  let cs ← scanSeparator cs
  let (hour, cs) ← scanBounded 1 0 23 (Text.trimStart cs)
  let cs ← scanSign ':' (Text.trimStart cs)
  let (minute, cs) ← scanBounded 1 0 59 (Text.trimStart cs)
  let cs ← scanSign ':' (Text.trimStart cs)
  let (second, cs) ← scanBounded 1 0 60 (Text.trimStart cs)
  let (nanosecond, cs) ← scanFraction cs
  let (offset, cs) ← scanRelaxedOffset (Text.trimStart cs)
  if !(Text.trimStart cs).isEmpty then .error .trailing
  else ofParts ⟨year, month, day, hour, minute, second, nanosecond, offset⟩

end Instant

end TrackerTraffic
