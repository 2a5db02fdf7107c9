import TrackerTraffic.Wire.Message
import TrackerTraffic.Bytes.Binary
import TrackerTraffic.Json.Basic

/-!
# Messages as JSON

A message becomes an object with a member for each field number, in order of
first occurrence.  A number that occurs again collects its values in an array;
no single value is an array, so an array always means repetition.
-/

namespace TrackerTraffic.Wire

/-- The members with one more value for a field number. -/
def collect (number : Nat) (value : Json) (members : Json.Members) : Json.Members :=
  let name := toString number
  match Json.lookup name members with
  | some (.array items) => Json.insert name (.array (items ++ [value])) members
  | some first => Json.insert name (.array [first, value]) members
  | none => Json.insert name value members

/-- A value with its wire type beside it. -/
def annotate (wireType : WireType) (value : Json) : Json :=
  .object [("wireType", .ofNat wireType.bits), ("value", value)]

mutual
/-- The JSON value of a field's value; `typed` puts wire types beside values. -/
def Payload.toJson (typed : Bool) : Payload → Json
  | .varint n => .ofNat n.toNat
  | .fixed64 n => .ofNat n.toNat
  | .fixed32 n => .ofNat n.toNat
  | .bytes content => .string (String.ofList (Binary.ofBytes content))
  | .message fields => .object (collectFields typed fields [])

def collectFields (typed : Bool) : List (Tagged Payload) → Json.Members → Json.Members
  | [], members => members
  | ⟨number, wireType, payload⟩ :: rest, members =>
    let value := payload.toJson typed
    let value := if typed then annotate wireType value else value
    collectFields typed rest (collect number value members)
end

def render (typed : Bool) (fields : List Field) : Json := .object (collectFields typed fields [])

def decode (bytes : Bytes) : Except WireError Json := (parseMessage bytes).map (render false)

/-- The object of a message in bytes, each value with its wire type beside it. -/
def decodeTyped (bytes : Bytes) : Except WireError Json := (parseMessage bytes).map (render true)

end TrackerTraffic.Wire
