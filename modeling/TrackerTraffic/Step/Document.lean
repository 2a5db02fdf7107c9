import TrackerTraffic.Path.Parser
import TrackerTraffic.Shape.Reader
import TrackerTraffic.Step.Basic

/-!
# Steps as documents

A step is a record without further fields.  Exactly one of `input` and `mapInput` is
given, and two of the functions need options.
-/

namespace TrackerTraffic

def Path.read : Reader Path :=
  Reader.parsed fun text => (Path.parse text).mapError PathError.message

def Target.read : Reader Target :=
  Reader.parsed fun text => (Target.parse text).mapError PathError.message

namespace Step

/-- The fields of a step as they are written. -/
structure Written where
  function : StepName
  input : Option Path
  mapInput : Option Path
  output : Target
  options : Option Json

def fields : List (Field Json ShapeError Written) :=
  [.must "function" (Reader.choice StepName.text StepName.all) fun function w =>
      { w with function },
    .may "input" (Reader.optional Path.read) fun input w => { w with input },
    .may "mapInput" (Reader.optional Path.read) fun mapInput w => { w with mapInput },
    .must "output" Target.read fun output w => { w with output },
    .may "options" (Reader.optional Reader.any) fun options w => { w with options }]

/-- A record that is read before the first field. -/
def blank : Written := ⟨.parseQueryString, none, none, ⟨"", []⟩, none⟩

/-- The input of a step, of which there is one. -/
def inputOf (w : Written) : Except ShapeError StepInput :=
  match w.input, w.mapInput with
  | some path, none => .ok (.single path)
  | none, some path => .ok (.each path)
  | some _, some _ => .error (.refused "step sets both `input` and `mapInput`")
  | none, none => .error (.refused "step sets neither `input` nor `mapInput`")

/-- Reads the options of a function that needs them. -/
def readOptions {α : Type} (function : StepName) (read : Reader α) (options : Option Json) :
    Except ShapeError α :=
  match options with
  | none => .error (.refused s!"{function.text} requires options")
  | some v => (read v).mapError fun e => .refused s!"invalid {function.text} options: {e.message}"

/-- The options of `getProperty`. -/
def propertyOptions : Reader Path :=
  Reader.record "GetPropertyOptions" [.must "path" Path.read fun path _ => path] false ⟨"", []⟩

/-- The options of `split`. -/
def splitOptions : Reader String :=
  Reader.record "SplitOptions" [.must "separator" Reader.string fun separator _ => separator]
    false ""

/-- The function of a step with its options. -/
def functionOf (w : Written) : Except ShapeError StepFunction :=
  match w.function with
  | .parseQueryString => .ok .parseQueryString
  | .parseJson => .ok .parseJson
  | .decodeBase64 => .ok .decodeBase64
  | .decodeUrl => .ok .decodeUrl
  | .decodeProtobuf => .ok .decodeProtobuf
  | .gunzip => .ok .gunzip
  | .ensureArray => .ok .ensureArray
  | .getProperty => (readOptions .getProperty propertyOptions w.options).map .getProperty
  | .decodeJwt => .ok .decodeJwt
  | .split => (readOptions .split splitOptions w.options).map .split

def read : Reader Step := fun v => do
  let w ← Reader.record "RawStep" fields true blank v
  let input ← inputOf w
  let function ← functionOf w
  return ⟨function, input, w.output⟩

end Step

end TrackerTraffic
