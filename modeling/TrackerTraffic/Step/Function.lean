import TrackerTraffic.Bytes.Base64
import TrackerTraffic.Bytes.Binary
import TrackerTraffic.Bytes.Gzip
import TrackerTraffic.Bytes.Percent
import TrackerTraffic.Json.Draft
import TrackerTraffic.Path.Query
import TrackerTraffic.QueryString.Tree
import TrackerTraffic.Step.Error
import TrackerTraffic.Wire.Render

/-!
# Step functions

A step function takes one JSON value and gives one JSON value or fails.  The
functions that read text take numbers and booleans by their JSON text; bytes pass
between them as binary strings.
-/

namespace TrackerTraffic

/-- What a step does to its input. -/
inductive StepFunction where
  | parseQueryString
  | parseJson
  | decodeBase64
  | decodeUrl
  | decodeProtobuf
  | gunzip
  | ensureArray
  | getProperty (path : Path)
  | decodeJwt
  | split (separator : String)

/-- The functions without their options. -/
inductive StepName where
  | parseQueryString
  | parseJson
  | decodeBase64
  | decodeUrl
  | decodeProtobuf
  | gunzip
  | ensureArray
  | getProperty
  | decodeJwt
  | split
deriving DecidableEq

namespace StepName

/-- Every function, in order. -/
def all : List StepName :=
  [.parseQueryString, .parseJson, .decodeBase64, .decodeUrl, .decodeProtobuf, .gunzip,
    .ensureArray, .getProperty, .decodeJwt, .split]

def text : StepName → String
  | parseQueryString => "parseQueryString"
  | parseJson => "parseJson"
  | decodeBase64 => "decodeBase64"
  | decodeUrl => "decodeUrl"
  | decodeProtobuf => "decodeProtobuf"
  | gunzip => "gunzip"
  | ensureArray => "ensureArray"
  | getProperty => "getProperty"
  | decodeJwt => "decodeJwt"
  | split => "split"

end StepName

namespace StepFunction

def symbol : StepFunction → StepName
  | parseQueryString => .parseQueryString
  | parseJson => .parseJson
  | decodeBase64 => .decodeBase64
  | decodeUrl => .decodeUrl
  | decodeProtobuf => .decodeProtobuf
  | gunzip => .gunzip
  | ensureArray => .ensureArray
  | getProperty _ => .getProperty
  | decodeJwt => .decodeJwt
  | split _ => .split

def name (f : StepFunction) : String := f.symbol.text

/-! ### Functions on text -/

/-- The text of a scalar that is not null. -/
def textOf (v : Json) : Except StepError String :=
  match v with
  | .string s => .ok s
  | .number n => .ok n.text
  | .bool b => .ok (if b then "true" else "false")
  | v => .error (.typeMismatch v.kind)

/-- The JSON value of a text; a binary string of UTF-8 counts as the text it encodes. -/
def readJson (text : String) : Except StepError Json :=
  match Json.read? (String.ofList (Binary.repair text.toList)) with
  | some v => .ok v
  | none => .error .json

/-- The bytes of a lenient base64 spelling. -/
def base64Bytes (text : List Char) : Except StepError Bytes :=
  match Base64.decode? text with
  | some bytes => .ok bytes
  | none => .error .base64

/-- The text that percent encoding hides; a plus sign stays. -/
def percentDecoded (text : String) : String :=
  String.ofList (Binary.textOfBytes (Percent.decodeText text.toList))

/-- The data of a gzip stream in a binary string, as a binary string. -/
def inflated (text : String) : Except StepError String :=
  match Gzip.decode? (Binary.toBytes text.toList) with
  | some data => .ok (String.ofList (Binary.ofBytes data))
  | none => .error .gzip

def jwtPayload? (text : String) : Option (List Char) :=
  (CodeTable.cutAt '.' (Text.trim text.toList))[1]?

/-- The payload of a JSON web token; its signature is not looked at. -/
def readJwt (text : String) : Except StepError Json :=
  match jwtPayload? text with
  | none => .error .jwtWithoutPayload
  | some payload =>
    match base64Bytes payload with
    | .error e => .error e
    | .ok bytes =>
      match Json.read? (String.ofList (Binary.textOfBytes bytes)) with
      | some v => .ok v
      | none => .error .jwtPayload

def splitText (separator text : String) : Json :=
  .array ((Text.split separator.toList text.toList).map fun part => .string (String.ofList part))

/-! ### Application -/

/-- An array as it is, any other value alone in an array. -/
def toArray (v : Json) : Json :=
  match v with
  | .array items => .array items
  | v => .array [v]

/-- A function on text applied to a text. -/
def applyToText (f : StepFunction) (text : String) : Except StepError Json :=
  match f with
  | parseQueryString => .ok (QueryString.parse text)
  | parseJson => readJson text
  | decodeBase64 =>
    (base64Bytes text.toList).map fun bytes => .string (String.ofList (Binary.ofBytes bytes))
  | decodeUrl => .ok (.string (percentDecoded text))
  | decodeProtobuf => (Wire.decode (Binary.toBytes text.toList)).mapError .protobuf
  | gunzip => (inflated text).map .string
  | decodeJwt => readJwt text
  | split separator => .ok (splitText separator text)
  | ensureArray => .ok (toArray (.string text))
  | getProperty path => .ok ((path.queryCollapsed (.string text)).getD .null)

def apply (f : StepFunction) (v : Json) : Except StepError Json :=
  match f with
  | ensureArray => .ok (toArray v)
  | getProperty path => .ok ((path.queryCollapsed v).getD .null)
  | f => do f.applyToText (← textOf v)

end StepFunction

end TrackerTraffic
