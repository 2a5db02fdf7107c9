/-!
# Tables of code points

Properties of characters are tables written as text: a range is one
hexadecimal code point or two joined by `-`, and a mapping is a code point,
`>`, and the code points it maps to, joined by `.`.  Both kinds are kept sorted
and looked up by halving.
-/

namespace TrackerTraffic

/-! ### Reading tables -/

namespace CodeTable

/-- Reads hexadecimal digits in lower case; other characters count as digits too. -/
def hexNumber (text : List Char) : Nat :=
  text.foldl (fun n c => n * 16 + (if c.toNat < 58 then c.toNat - 48 else c.toNat - 87)) 0

/-- Cuts a text at every occurrence of a character. -/
def cutAt (separator : Char) : List Char → List (List Char)
  | [] => [[]]
  | c :: rest =>
    if c = separator then [] :: cutAt separator rest
    else
      match cutAt separator rest with
      | [] => [[c]]
      | first :: others => (c :: first) :: others

/-- The words of a text between spaces and line ends. -/
def words (text : String) : List (List Char) :=
  (cutAt ' ' (text.toList.map fun c => if c = '\n' then ' ' else c)).filter (!·.isEmpty)

end CodeTable

/-! ### Sets -/

/-- A set of code points: disjoint ranges in ascending order, ends included. -/
structure CodeRanges where
  ranges : Array (Nat × Nat)

namespace CodeRanges

open CodeTable

def rangeOfText (word : List Char) : Nat × Nat :=
  match cutAt '-' word with
  | [first, last] => (hexNumber first, hexNumber last)
  | _ => (hexNumber word, hexNumber word)

/-- Reads a set from the text of its ranges. -/
def ofText (text : String) : CodeRanges := ⟨((words text).map rangeOfText).toArray⟩

/-- Looks for `n` in the ranges from `low` up to but not including `high`. -/
def search (ranges : Array (Nat × Nat)) (n low high : Nat) : Bool :=
  if low < high then
    let middle := (low + high) / 2
    match ranges[middle]? with
    | none => false
    | some (first, last) =>
      if n < first then search ranges n low middle
      else if last < n then search ranges n (middle + 1) high
      else true
  else false
termination_by high - low

def contains (set : CodeRanges) (n : Nat) : Bool := search set.ranges n 0 set.ranges.size

end CodeRanges

/-! ### Mappings -/

/-- A mapping from code points to sequences of code points, keys in ascending order. -/
structure CodeMap where
  entries : Array (Nat × List Nat)

namespace CodeMap

open CodeTable

def entryOfText (word : List Char) : Nat × List Nat :=
  match cutAt '>' word with
  | [source, target] =>
    (hexNumber source, if target.isEmpty then [] else (cutAt '.' target).map hexNumber)
  | _ => (0, [])

/-- Reads a mapping from the text of its entries. -/
def ofText (text : String) : CodeMap := ⟨((words text).map entryOfText).toArray⟩

/-- Looks for the key `n` in the entries from `low` up to but not including `high`. -/
def search (entries : Array (Nat × List Nat)) (n low high : Nat) : Option (List Nat) :=
  if low < high then
    let middle := (low + high) / 2
    match entries[middle]? with
    | none => none
    | some (key, target) =>
      if n < key then search entries n low middle
      else if key < n then search entries n (middle + 1) high
      else some target
  else none
termination_by high - low

/-- The sequence a code point maps to, if it is a key. -/
def find? (map : CodeMap) (n : Nat) : Option (List Nat) :=
  search map.entries n 0 map.entries.size

end CodeMap

end TrackerTraffic
