import TrackerTraffic.Json.Printer
import TrackerTraffic.Text.Quoted

/-!
# Values of the wrong shape

Documents are read into records, lists and choices.  A `ShapeError` says where a
value does not fit, and `ShapeError.message` words it.
-/

namespace TrackerTraffic

/-- Why a value does not have the wanted shape. -/
inductive ShapeError where
  | wrongType (found expected : String)
  | wrongValue (found expected : String)
  | wrongLength (length : Nat) (expected : String)
  | missingField (name : String)
  | duplicateField (name : String)
  | unknownField (name : String) (known : List String)
  | unknownVariant (name : String) (known : List String)
  | noVariant (choice : String)
  | refused (reason : String)
deriving DecidableEq

namespace ShapeError

def oneOf (names : List String) : String :=
  "one of " ++ ", ".intercalate (names.map fun n => s!"`{n}`")

def message : ShapeError → String
  | wrongType found expected => s!"invalid type: {found}, expected {expected}"
  | wrongValue found expected => s!"invalid value: {found}, expected {expected}"
  | wrongLength length expected => s!"invalid length {length}, expected {expected}"
  | missingField name => s!"missing field `{name}`"
  | duplicateField name => s!"duplicate field `{name}`"
  | unknownField name known => s!"unknown field `{name}`, expected {oneOf known}"
  | unknownVariant name known => s!"unknown variant `{name}`, expected {oneOf known}"
  | noVariant choice => s!"data did not match any variant of untagged enum {choice}"
  | refused reason => reason

end ShapeError

def Json.Number.described : Json.Number → String
  | .integer n => s!"integer `{n}`"
  | .float x => s!"floating point `{x.text}`"

def Json.described : Json → String
  | .null => "null"
  | .bool true => "boolean `true`"
  | .bool false => "boolean `false`"
  | .number n => n.described
  | .string s => "string " ++ Text.quoted s
  | .array _ => "sequence"
  | .object _ => "map"

def elements (count : Nat) : String := if count = 1 then "1 element" else s!"{count} elements"

end TrackerTraffic
