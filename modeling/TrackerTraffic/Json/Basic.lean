import TrackerTraffic.Number.Binary64

/-!
# JSON values

Objects are lists of members in the order in which their names first appeared.
`Json.lookup` and `Json.insert` are the only operations on members that the
rest of the library uses: an insertion keeps the place of a name that is
already present, so names stay distinct (`Json.WellFormed`).
-/

namespace TrackerTraffic

/-- A number: an integer of a 64 bit literal, exactly, or a binary64 number. -/
inductive Json.Number where
  | integer (value : Int)
  | float (value : Binary64)
deriving DecidableEq, Inhabited

/-- A JSON value. -/
inductive Json where
  | null
  | bool (value : Bool)
  | number (value : Json.Number)
  | string (value : String)
  | array (items : List Json)
  | object (members : List (String × Json))
deriving Inhabited

namespace Json

/-- The members of an object, in order. -/
abbrev Members := List (String × Json)

/-! ### Members -/

def lookup (name : String) : Members → Option Json
  | [] => none
  | (n, v) :: rest => if n = name then some v else lookup name rest

/-- The members with `value` under `name`, in the place of the name or at the end. -/
def insert (name : String) (value : Json) : Members → Members
  | [] => [(name, value)]
  | (n, v) :: rest => if n = name then (name, value) :: rest else (n, v) :: insert name value rest

/-- Members entered one after another: the first place and the last value of each name count. -/
def ofEntries (entries : List (String × Json)) : Members :=
  entries.foldl (fun members entry => insert entry.1 entry.2 members) []

mutual
/-- No object in the value has two members of one name. -/
def WellFormed : Json → Prop
  | array items => WellFormedItems items
  | object members => (members.map Prod.fst).Nodup ∧ WellFormedMembers members
  | _ => True

/-- `WellFormed` for every item. -/
def WellFormedItems : List Json → Prop
  | [] => True
  | v :: rest => WellFormed v ∧ WellFormedItems rest

/-- `WellFormed` for the value of every member. -/
def WellFormedMembers : Members → Prop
  | [] => True
  | (_, v) :: rest => WellFormed v ∧ WellFormedMembers rest
end

/-! ### Kinds -/

/-- The six kinds of values. -/
inductive Kind where
  | null
  | boolean
  | number
  | string
  | array
  | object
deriving DecidableEq

def Kind.name : Kind → String
  | .null => "null"
  | .boolean => "boolean"
  | .number => "number"
  | .string => "string"
  | .array => "array"
  | .object => "object"

def kind : Json → Kind
  | null => .null
  | bool _ => .boolean
  | number _ => .number
  | string _ => .string
  | array _ => .array
  | object _ => .object

/-- The value is `null`. -/
def isNull : Json → Bool
  | null => true
  | _ => false

def ofNat (n : Nat) : Json := number (.integer n)

def string? : Json → Option String
  | string s => some s
  | _ => none

/-! ### Equality -/

/-- The value of a number as a binary64 number. -/
def Number.toBinary64 : Number → Binary64
  | .integer n => (Binary64.ofInt? n).getD (Binary64.zero false)
  | .float x => x

/-- Integers equal integers and floats equal floats of the same value. -/
def Number.sameAs : Number → Number → Bool
  | .integer m, .integer n => m == n
  | .float x, .float y => x.valueEq y
  | _, _ => false

mutual
/-- Structural equality: numbers by `Number.sameAs`, objects whatever their order. -/
def sameAs : Json → Json → Bool
  | null, null => true
  | bool a, bool b => a == b
  | number m, number n => m.sameAs n
  | string s, string t => s == t
  | array xs, array ys => sameItems xs ys
  | object ms, object ns => ms.length == ns.length && sameMembers ms ns
  | _, _ => false

def sameItems : List Json → List Json → Bool
  | [], [] => true
  | x :: xs, y :: ys => sameAs x y && sameItems xs ys
  | _, _ => false

/-- Every member has an equal one of the same name. -/
def sameMembers : Members → Members → Bool
  | [], _ => true
  | (n, v) :: rest, others =>
    (match lookup n others with
      | some w => sameAs v w
      | none => false) && sameMembers rest others
end

end Json

end TrackerTraffic
