import TrackerTraffic.Instant.Basic
import TrackerTraffic.Json.Basic
import TrackerTraffic.Text.AsciiCase

/-!
# Captured requests

A request as an app sent it.  The path may still carry a query behind a question
mark; bodies of bytes are binary strings.
-/

namespace TrackerTraffic

/-- A header or a cookie. -/
structure NameValue where
  name : String
  value : String
deriving DecidableEq, Inhabited

/-- One captured request. -/
structure Request where
  startTime : Option Instant := none
  method : String := ""
  host : String := ""
  path : String := ""
  endpointUrl : String
  query : Option String := none
  content : Option String := none
  headers : List NameValue := []
  cookies : List NameValue := []
deriving DecidableEq

namespace Request

def pathOnly (r : Request) : String := String.ofList (r.path.toList.takeWhile (· != '?'))

/-- What follows the first question mark of the path. -/
def pathQuery? (r : Request) : Option String :=
  match r.path.toList.dropWhile (· != '?') with
  | _ :: rest => some (String.ofList rest)
  | [] => none

/-- The query without its question mark; the field counts before the path. -/
def queryString (r : Request) : Option String := r.query.or r.pathQuery?

/-- The value of the last header of a name, whatever the case of its letters. -/
def header (r : Request) (name : String) : Option String :=
  (r.headers.reverse.find? fun h => Text.sameUpToAsciiCase h.name name).map NameValue.value

/-! ### The tree that decoding starts from -/

/-- The member of a tree in which results are collected. -/
def resultSlot : String := "res"

/-- Names and values as an object; of several values of one name the last counts. -/
def nameValueTree (pairs : List NameValue) : Json :=
  .object (Json.ofEntries (pairs.map fun p => (p.name, .string p.value)))

/-- The parts that a request has, by name, and an empty object for results. -/
def initialState (r : Request) : Json :=
  .object <|
    (if r.headers.isEmpty then [] else [("header", nameValueTree r.headers)]) ++
    (if r.cookies.isEmpty then [] else [("cookie", nameValueTree r.cookies)]) ++
    [("path", .string r.pathOnly)] ++
    (r.queryString.toList.map fun q => ("query", .string q)) ++
    (r.content.toList.map fun c => ("body", .string c)) ++
    [(resultSlot, .object [])]

end Request

end TrackerTraffic
