import TrackerTraffic.Json.Basic
import TrackerTraffic.Number.Power
import TrackerTraffic.Path.Error
import TrackerTraffic.Text.Blank
import TrackerTraffic.Text.CodeTable
import TrackerTraffic.Text.Integer

/-!
# Write targets

A target names one place in a tree by dotted keys.  Writing creates what is
missing on the way: objects in place of nothing and of `null`, and nulls in front
of a position beyond an array's end.  A key that is a position counts as a name
in objects.
-/

namespace TrackerTraffic

/-- A key of a write target. -/
inductive Target.Key where
  | name (name : String)
  | position (position : Nat)
deriving DecidableEq

/-- A write target with the text it was read from. -/
structure Target where
  source : String
  keys : List Target.Key
deriving DecidableEq

namespace Target

/-! ### Reading -/

def dotted (cs : List Char) : List Char :=
  (cs.map fun c => if c = '[' then '.' else c).filter (· != ']')

/-- The text without a root sign in front. -/
def dropRoot : List Char → List Char
  | '$' :: '.' :: rest => rest
  | cs => cs

def isQuerySign (c : Char) : Bool := ['*', '?', '@', '(', ')'].contains c

/-- The key that a segment spells: digits are a position. -/
def keyOf (part : List Char) : Except String Key :=
  if part.isEmpty then .error "empty segment"
  else if part.all Char.isDigit then
    match Text.unsigned? part with
    | some n => .ok (.position n)
    | none => .error "index out of range"
  else .ok (.name (String.ofList part))

/-- The keys of a text, or the reason why it names no place. -/
def readKeys (cs : List Char) : Except String (List Key) :=
  let plain := dropRoot (dotted cs)
  if (Text.trim plain).isEmpty then .error "empty path"
  else if plain.any isQuerySign then .error "wildcards and filters cannot be written to"
  else (CodeTable.cutAt '.' plain).mapM keyOf

def parse (source : String) : Except PathError Target :=
  match readKeys source.toList with
  | .ok keys => .ok ⟨source, keys⟩
  | .error reason => .error (.notWritable source reason)

/-! ### Writing -/

/-- Whether a value was written; if not, a scalar or an array stood in the way of a key. -/
inductive Assigned where
  | written
  | conflict
deriving DecidableEq

def Key.text : Key → String
  | .name text => text
  | .position n => toString n

/-- The items cut to a length, or filled up to it with nulls. -/
def resize (items : List Json) (length : Nat) : List Json :=
  items.take length ++ List.replicate (length - items.length) .null

/--
Makes room for a key: the container with a `null` where nothing was, and the value
at the key.  Lengths are words of 64 bits, so the position before the greatest
length has no successor.
-/
def makeRoom (key : Key) : Json → Json × Option Json
  | .array items =>
    match key with
    | .position i =>
      let items := if items.length ≤ i then resize items ((i + 1) % pow2 64) else items
      (.array items, items[i]?)
    | .name _ => (.array items, none)
  | .object members =>
    match Json.lookup key.text members with
    | some v => (.object members, some v)
    | none => (.object (Json.insert key.text .null members), some .null)
  | v => (v, none)

/-- Replaces the value at a key that has room. -/
def put (key : Key) (value : Json) : Json → Json
  | .array items =>
    match key with
    | .position i => .array (items.set i value)
    | .name _ => .array items
  | .object members => .object (Json.insert key.text value members)
  | v => v

/-- An empty object in place of `null`. -/
def fillNull : Json → Json
  | .null => .object []
  | v => v

def isContainer : Json → Bool
  | .array _ => true
  | .object _ => true
  | _ => false

/-- Writes a value at the end of a way of keys; also the tree after a conflict. -/
def assignAt (value : Json) : List Key → Json → Json × Assigned
  | [], root => (root, .conflict)
  | [key], root =>
    match makeRoom key root with
    | (roomy, some _) => (put key value roomy, .written)
    | (roomy, none) => (roomy, .conflict)
  | key :: rest, root =>
    match makeRoom key root with
    | (roomy, none) => (roomy, .conflict)
    | (roomy, some child) =>
      if isContainer (fillNull child) then
        let (child, result) := assignAt value rest (fillNull child)
        (put key child roomy, result)
      else (roomy, .conflict)

def assign (target : Target) (root value : Json) : Json × Assigned :=
  assignAt value target.keys root

end Target

end TrackerTraffic
