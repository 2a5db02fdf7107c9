/-!
# Punycode

RFC 3492: a text of any characters as ASCII letters, digits and hyphens.  The ASCII
characters stand first; the others are inserted by their code points in ascending
order, each step told by the distance from the step before.
-/

namespace TrackerTraffic.Url.Punycode

/-- The letter or digit of a number below 36. -/
def letter (n : Nat) : Char := Char.ofNat (if n < 26 then 97 + n else 22 + n)

/-- The number of a letter, in either case, or of a digit. -/
def letterValue? (c : Char) : Option Nat :=
  if 'a' ≤ c ∧ c ≤ 'z' then some (c.toNat - 97)
  else if 'A' ≤ c ∧ c ≤ 'Z' then some (c.toNat - 65)
  else if '0' ≤ c ∧ c ≤ '9' then some (c.toNat - 22)
  else none

/-- The least value of a digit at a place that is not the last one. -/
def threshold (place bias : Nat) : Nat :=
  let k := 36 * (place + 1)
  if k ≤ bias then 1 else if bias + 26 ≤ k then 26 else k - bias

theorem threshold_bounds (place bias : Nat) :
    1 ≤ threshold place bias ∧ threshold place bias ≤ 26 := by
  simp only [threshold]
  split
  · omega
  · split <;> omega

/-- The bias for a distance that has been divided `rounds` times. -/
def shrink (rounds delta : Nat) : Nat :=
  if 455 < delta then shrink (rounds + 1) (delta / 35)
  else 36 * rounds + 36 * delta / (delta + 38)
termination_by delta
decreasing_by omega

/-- The bias after a distance has been written. -/
def adapt (first : Bool) (delta length : Nat) : Nat :=
  let delta := if first then delta / 700 else delta / 2
  shrink 0 (delta + delta / length)

/-! ### Writing -/

/-- A distance in digits, the last of which is below its threshold. -/
def encodeNumber (bias place n : Nat) : List Char :=
  let t := threshold place bias
  if n < t then [letter n]
  else letter (t + (n - t) % (36 - t)) :: encodeNumber bias (place + 1) ((n - t) / (36 - t))
termination_by n
decreasing_by
  have := threshold_bounds place bias
  have := Nat.div_le_self (n - threshold place bias) (36 - threshold place bias)
  omega

/-- Where writing stands: the text, the distance and the bias, and the characters written. -/
structure Writer where
  out : List Char
  delta : Nat
  bias : Nat
  written : Nat

/-- Passes one character of the text in the round of the code point `n`. -/
def Writer.pass (ascii n : Nat) (w : Writer) (c : Char) : Writer :=
  if c.toNat < n then { w with delta := w.delta + 1 }
  else if c.toNat = n then
    ⟨w.out ++ encodeNumber w.bias 0 w.delta, 0,
      adapt (w.written == ascii) w.delta (w.written + 1), w.written + 1⟩
  else w

/-- Writes the characters of ascending code points, those from `least` on. -/
def encodeRounds (cs : List Char) (ascii : Nat) : Nat → List Nat → Writer → List Char
  | _, [], w => w.out
  | least, n :: rest, w =>
    let start := { w with delta := w.delta + (n - least) * (w.written + 1) }
    let stop := cs.foldl (Writer.pass ascii n) start
    encodeRounds cs ascii (n + 1) rest { stop with delta := stop.delta + 1 }

def distinct : List Nat → List Nat
  | a :: b :: rest => if a = b then distinct (b :: rest) else a :: distinct (b :: rest)
  | short => short

def encode (cs : List Char) : List Char :=
  let ascii := cs.filter (·.toNat < 128)
  let others := distinct (((cs.map Char.toNat).filter (128 ≤ ·)).mergeSort (· ≤ ·))
  ascii ++ (if ascii.isEmpty then [] else ['-']) ++
    encodeRounds cs ascii.length 128 others ⟨[], 0, 72, ascii.length⟩

/-! ### Reading -/

/-- Reads the digits of a number and adds it to `sum`, each digit times `weight`. -/
def decodeNumber? (bias : Nat) : Nat → Nat → Nat → List Char → Option (Nat × List Char)
  | _, _, _, [] => none
  | place, weight, sum, c :: rest =>
    match letterValue? c with
    | none => none
    | some digit =>
      let t := threshold place bias
      if digit < t then some (sum + digit * weight, rest)
      else decodeNumber? bias (place + 1) (weight * (36 - t)) (sum + digit * weight) rest

theorem decodeNumber?_length {bias place weight sum n : Nat} {cs r : List Char}
    (h : decodeNumber? bias place weight sum cs = some (n, r)) : r.length < cs.length := by
  induction cs generalizing place weight sum with
  | nil => simp [decodeNumber?] at h
  | cons c tail ih =>
    simp only [decodeNumber?] at h
    split at h
    · simp at h
    · split at h
      · simp only [Option.some.injEq, Prod.mk.injEq] at h
        simp [← h.2]
      · have := ih h
        simp only [List.length_cons]
        omega

/-- Inserts characters, from a code point and a place on. -/
def decodeFrom (bias code place : Nat) (out : List Char) (cs : List Char) : Option (List Char) :=
  if cs.isEmpty then some out
  else
    match h : decodeNumber? bias 0 1 place cs with
    | none => none
    | some (sum, rest) =>
      have := decodeNumber?_length h
      let length := out.length + 1
      let next := code + sum / length
      if next < 0x110000 ∧ ¬(0xD800 ≤ next ∧ next < 0xE000) then
        let at' := sum % length
        decodeFrom (adapt (place == 0) (sum - place) length) next
          (at' + 1) (out.take at' ++ Char.ofNat next :: out.drop at') rest
      else none
termination_by cs.length

/-- The ASCII characters in front of the last hyphen, and what follows it. -/
def cutLastHyphen (cs : List Char) : List Char × List Char :=
  let reversed := cs.reverse
  if cs.contains '-' then
    (((reversed.dropWhile (· != '-')).drop 1).reverse, (reversed.takeWhile (· != '-')).reverse)
  else ([], cs)

def decode? (cs : List Char) : Option (List Char) :=
  let (ascii, digits) := cutLastHyphen cs
  if ascii.all (·.toNat < 128) then decodeFrom 72 128 0 ascii digits else none

end TrackerTraffic.Url.Punycode
