import TrackerTraffic.Shape.Error

/-!
# Records

A record has named fields in an order.  It is written by name, in any order, or as
a list of values in the order of the fields.  Reading starts from a blank record,
which holds the defaults, and enters one value after the other, so that the first
bad one is reported; what is missing is reported afterwards.
-/

namespace TrackerTraffic

/--
A field of a record: its name, whether it must be given, and how a value of a source
is entered.
-/
structure Field (σ ε ρ : Type) where
  name : String
  required : Bool
  enter : σ → ρ → Except ε ρ

namespace Field

variable {σ ε ρ : Type}

def named? (fields : List (Field σ ε ρ)) (name : String) : Option (Field σ ε ρ) :=
  fields.find? (·.name == name)

def must {α : Type} (name : String) (read : σ → Except ε α) (put : α → ρ → ρ) : Field σ ε ρ :=
  ⟨name, true, fun source record => (read source).map (put · record)⟩

/-- A field that the blank record has a default for. -/
def may {α : Type} (name : String) (read : σ → Except ε α) (put : α → ρ → ρ) : Field σ ε ρ :=
  ⟨name, false, fun source record => (read source).map (put · record)⟩

end Field

/-- A record while it is read: what has been entered, and the names of the fields entered. -/
structure Filled (ρ : Type) where
  record : ρ
  seen : List String

namespace Filled

variable {σ ε ρ : Type}

/-- A record into which nothing has been entered. -/
def blank (record : ρ) : Filled ρ := ⟨record, []⟩

/-- Enters the value of a field, which may be given once. -/
def enter (wrong : ShapeError → ε) (field : Field σ ε ρ) (source : σ) (filled : Filled ρ) :
    Except ε (Filled ρ) :=
  if filled.seen.contains field.name then .error (wrong (.duplicateField field.name))
  else (field.enter source filled.record).map fun record => ⟨record, field.name :: filled.seen⟩

/-- The record, if no field is missing that must be given. -/
def close (fields : List (Field σ ε ρ)) (wrong : ShapeError → ε) (filled : Filled ρ) :
    Except ε ρ :=
  match fields.find? fun field => field.required && !filled.seen.contains field.name with
  | some field => .error (wrong (.missingField field.name))
  | none => .ok filled.record

end Filled

/--
Enters values in the order of the fields, of which `index` have been passed, and gives back
the values that are left over.
-/
def enterInOrder {σ ε ρ : Type} (short : Nat → ε) (record : ρ) :
    Nat → List (Field σ ε ρ) → List σ → Except ε (ρ × List σ)
  | _, [], sources => .ok (record, sources)
  | index, field :: fields, [] =>
    if field.required then .error (short index)
    else enterInOrder short record (index + 1) fields []
  | index, field :: fields, source :: sources =>
    match field.enter source record with
    | .ok record => enterInOrder short record (index + 1) fields sources
    | .error e => .error e

end TrackerTraffic
