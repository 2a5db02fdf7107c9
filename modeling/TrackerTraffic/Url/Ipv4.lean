import TrackerTraffic.Text.CodeTable
import TrackerTraffic.Text.Hex

/-!
# IPv4 addresses

One to four numbers between dots, in decimal, octal or hexadecimal; the last one fills
what the others leave.
-/

namespace TrackerTraffic.Url.Ipv4

/-- The number of digits to a base, `none` if a character is no digit. -/
def number? (base : Nat) (cs : List Char) : Option Nat :=
  cs.foldlM (fun n c => do
    let digit ← Text.hexValue? c
    if digit < base then some (n * base + digit) else none) 0

/-- The number that a part spells; a prefix without digits is zero. -/
def part? : List Char → Option Nat
  | [] => none
  | '0' :: 'x' :: rest => number? 16 rest
  | '0' :: 'X' :: rest => number? 16 rest
  | ['0'] => some 0
  | '0' :: rest => number? 8 rest
  | cs => number? 10 cs

/-- The parts between dots; an empty last one does not count. -/
def parts (cs : List Char) : List (List Char) :=
  let all := CodeTable.cutAt '.' cs
  if all.getLast? = some [] then all.dropLast else all

/-- The host can only be an address: its last part is a number. -/
def endsInNumber (cs : List Char) : Bool :=
  match (parts cs).getLast? with
  | some [] => false
  | some last => last.all Char.isDigit || (part? last).isSome
  | none => false

/-- The address of numbers of which the last one fills the rest. -/
def ofNumbers? (numbers : List Nat) : Option Nat :=
  match numbers.reverse with
  | [] => none
  | last :: others =>
    let heads := others.reverse
    if heads.length < 4 ∧ last < Nat.pow 256 (4 - heads.length) ∧ heads.all (· < 256) then
      some (heads.zipIdx.foldl (fun sum (n, place) => sum + n * Nat.pow 256 (3 - place)) last)
    else none

def read? (cs : List Char) : Option Nat := do
  ofNumbers? (← (parts cs).mapM part?)

def text (address : Nat) : String :=
  ".".intercalate ([3, 2, 1, 0].map fun place => toString (address / Nat.pow 256 place % 256))

end TrackerTraffic.Url.Ipv4
