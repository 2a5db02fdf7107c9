import TrackerTraffic.Bytes.Base64
import TrackerTraffic.Bytes.Binary
import TrackerTraffic.Instant.Reader
import TrackerTraffic.Request.Basic
import TrackerTraffic.Shape.Error
import TrackerTraffic.Url.Basic

/-!
# Captures

A capture is a log of entries, one for each request that was sent.  An entry becomes a
request by taking its URL apart and its body out of base64.
-/

namespace TrackerTraffic

/-- Why a capture gives no requests. -/
inductive CaptureError where
  | syntaxError
  | wrongShape (cause : ShapeError)
  | url (text : String) (cause : UrlError)
  | body (entry : Nat)
deriving DecidableEq

def CaptureError.message : CaptureError → String
  | .syntaxError => "invalid HAR JSON: syntax"
  | .wrongShape cause => "invalid HAR JSON: " ++ cause.message
  | .url text cause => s!"invalid request URL {text}: {cause.message}"
  | .body entry => s!"invalid base64 body in entry {entry}"

namespace Capture

/-- The body of a captured request and how it is written down. -/
structure PostData where
  text : Option String
  encoding : Option String
deriving DecidableEq

/-- A request as it was captured. -/
structure CapturedRequest where
  method : String
  url : String
  headers : List NameValue
  cookies : List NameValue
  postData : Option PostData
deriving DecidableEq

/-- A captured request and when it was sent. -/
structure Entry where
  startedDateTime : Option String
  request : CapturedRequest
deriving DecidableEq

/-- The content of a body, `none` if its base64 cannot be read; bytes become a binary string. -/
def PostData.content? (body : PostData) : Option (Option String) :=
  match body.text with
  | none => some none
  | some text =>
    if body.encoding = some "base64" then
      (Base64.decode? text.toList).map fun bytes => some (String.ofList (Binary.ofBytes bytes))
    else some (some text)

/-- The moment that a text names, if it is written in the form of RFC 3339. -/
def momentOf (text : String) : Option Instant := (Instant.readStrict text).toOption

/-- The request of an entry, which is the `index`th. -/
def Entry.toRequest (e : Entry) (index : Nat) : Except CaptureError Request :=
  match Url.parse e.request.url with
  | .error cause => .error (.url e.request.url cause)
  | .ok url =>
    match e.request.postData.elim (some none) PostData.content? with
    | none => .error (.body index)
    | some content =>
      .ok
        { startTime := e.startedDateTime.bind momentOf, method := e.request.method,
          host := url.hostText, path := url.path, endpointUrl := url.endpoint, query := url.query,
          content, headers := e.request.headers, cookies := e.request.cookies }

/-- The requests of entries, in order; the first entry that has none decides. -/
def requests (entries : List Entry) : Except CaptureError (List Request) :=
  entries.zipIdx.mapM fun (e, index) => e.toRequest index

end Capture

end TrackerTraffic
