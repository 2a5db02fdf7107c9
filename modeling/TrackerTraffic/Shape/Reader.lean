import TrackerTraffic.Number.Power
import TrackerTraffic.Shape.Record

/-!
# Readers of JSON values

A reader turns a JSON value into a value of another type or says why it does not
fit.
-/

namespace TrackerTraffic

abbrev Reader (α : Type) := Json → Except ShapeError α

namespace Reader

/-! ### Scalars and lists -/

def string : Reader String
  | .string s => .ok s
  | v => .error (.wrongType v.described "a string")

def any : Reader Json := .ok

/-- Nothing for `null`. -/
def optional {α : Type} (read : Reader α) : Reader (Option α)
  | .null => .ok none
  | v => (read v).map some

/-- A list, whose items are read in order. -/
def list {α : Type} (read : Reader α) : Reader (List α)
  | .array items => items.mapM read
  | v => .error (.wrongType v.described "a sequence")

def members : Reader Json.Members
  | .object ms => .ok ms
  | v => .error (.wrongType v.described "a map")

/-- A number of 32 bits. -/
def word32 : Reader UInt32
  | .number (.integer n) =>
    if 0 ≤ n ∧ n < pow2 32 then .ok (UInt32.ofNat n.toNat)
    else .error (.wrongValue (Json.number (.integer n)).described "u32")
  | v => .error (.wrongType v.described "u32")

def parsed {α : Type} (parse : String → Except String α) : Reader α := fun v => do
  (parse (← string v)).mapError .refused

/-! ### Choices -/

/-- One of named cases, by its name. -/
def variant {α : Type} (name : α → String) (cases : List α) (text : String) :
    Except ShapeError α :=
  match cases.find? (name · == text) with
  | some a => .ok a
  | none => .error (.unknownVariant text (cases.map name))

/-- A case given by its name, or as an object with `null` under its name. -/
def choice {α : Type} (name : α → String) (cases : List α) : Reader α
  | .string s => variant name cases s
  | .object [(n, v)] => do
    let a ← variant name cases n
    if v.isNull then .ok a else .error (.wrongType v.described "unit")
  | .object _ => .error (.wrongValue "map" "map with a single key")
  | v => .error (.wrongType v.described "string or map")

/-! ### Records -/

/-- Enters the member of an object; a name that no field has is refused if `strict`. -/
def enterMember {σ ρ : Type} (fields : List (Field σ ShapeError ρ)) (strict : Bool)
    (filled : Filled ρ) (entry : String × σ) : Except ShapeError (Filled ρ) :=
  match Field.named? fields entry.1 with
  | some field => filled.enter id field entry.2
  | none =>
    if strict then .error (.unknownField entry.1 (fields.map Field.name)) else .ok filled

def ofEntries {σ ρ : Type} (fields : List (Field σ ShapeError ρ)) (strict : Bool) (blank : ρ)
    (entries : List (String × σ)) : Except ShapeError ρ := do
  let filled ← entries.foldlM (enterMember fields strict) (.blank blank)
  filled.close fields id

/-- Reads a record from all the values of a list; `title` names the record in messages. -/
def ofItems {σ ρ : Type} (title : String) (fields : List (Field σ ShapeError ρ))
    (surplus : String) (blank : ρ) (items : List σ) : Except ShapeError ρ := do
  let short (index : Nat) : ShapeError :=
    .wrongLength index s!"{title} with {elements fields.length}"
  let (record, rest) ← enterInOrder short blank 0 fields items
  if rest.isEmpty then .ok record else .error (.wrongLength items.length surplus)

def record {ρ : Type} (name : String) (fields : List (Field Json ShapeError ρ)) (strict : Bool)
    (blank : ρ) : Reader ρ
  | .object ms => ofEntries fields strict blank ms
  | .array items => ofItems s!"struct {name}" fields "fewer elements in array" blank items
  | v => .error (.wrongType v.described s!"struct {name}")

end Reader

end TrackerTraffic
