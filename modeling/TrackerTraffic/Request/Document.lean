import TrackerTraffic.Instant.Printer
import TrackerTraffic.Instant.Reader
import TrackerTraffic.Request.Basic
import TrackerTraffic.Shape.Reader

/-!
# Requests as documents

A request is read from JSON with all fields optional but the endpoint, and written
with all fields.
-/

namespace TrackerTraffic

/-! ### Reading -/

def NameValue.read : Reader NameValue :=
  Reader.record "NameValue"
    [.must "name" Reader.string fun name pair => { pair with name },
      .must "value" Reader.string fun value pair => { pair with value }]
    false ⟨"", ""⟩

def Instant.read : Reader Instant
  | .string s => (readRelaxed s).mapError fun e => .refused e.message
  | v => .error (.wrongType v.described "an RFC 3339 formatted date and time string")

namespace Request

def fields : List (Field Json ShapeError Request) :=
  [.may "startTime" (Reader.optional Instant.read) fun startTime r => { r with startTime },
    .may "method" Reader.string fun method r => { r with method },
    .may "host" Reader.string fun host r => { r with host },
    .may "path" Reader.string fun path r => { r with path },
    .must "endpointUrl" Reader.string fun endpointUrl r => { r with endpointUrl },
    .may "query" (Reader.optional Reader.string) fun query r => { r with query },
    .may "content" (Reader.optional Reader.string) fun content r => { r with content },
    .may "headers" (Reader.list NameValue.read) fun headers r => { r with headers },
    .may "cookies" (Reader.list NameValue.read) fun cookies r => { r with cookies }]

def read : Reader Request :=
  Reader.record "Request" fields false ⟨none, "", "", "", "", none, none, [], []⟩

/-! ### Writing -/

/-- A text or `null`. -/
def optionalText (text : Option String) : Json :=
  match text with
  | some s => .string s
  | none => .null

def nameValueList (pairs : List NameValue) : Json :=
  .array (pairs.map fun p => .object [("name", .string p.name), ("value", .string p.value)])

def toJson (r : Request) : Json :=
  .object
    [("startTime", optionalText (r.startTime.map Instant.text)),
      ("method", .string r.method),
      ("host", .string r.host),
      ("path", .string r.path),
      ("endpointUrl", .string r.endpointUrl),
      ("query", optionalText r.query),
      ("content", optionalText r.content),
      ("headers", nameValueList r.headers),
      ("cookies", nameValueList r.cookies)]

end Request

end TrackerTraffic
