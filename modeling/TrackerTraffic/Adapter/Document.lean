import TrackerTraffic.Adapter.Basic
import TrackerTraffic.Adapter.PredicateDocument
import TrackerTraffic.Step.Document

/-!
# Adapters as documents

An adapter is a record that stands among the adapters of its tracker.  It may repeat
the tracker's slug, it has at least one endpoint, and each of its properties has one
data path or a list of them.
-/

namespace TrackerTraffic

/-! ### Data paths -/

def Context.read : Reader Context := Reader.choice Context.name Context.all

namespace DataPath

def fields : List (Field Json ShapeError DataPath) :=
  [.must "context" Context.read fun context d => { d with context },
    .must "path" Path.read fun path d => { d with path },
    .must "reasoning" Reader.string fun reasoning d => { d with reasoning },
    .may "onlyIf" (Reader.optional TextMatcher.readValue) fun onlyIf d => { d with onlyIf },
    .may "notIf" (Reader.optional TextMatcher.readValue) fun notIf d => { d with notIf }]

def read : Reader DataPath :=
  Reader.record "DataPath" fields false ⟨.header, ⟨"", []⟩, "", none, none⟩

/-- Reads one data path or a list of them. -/
def readSome : Reader (List DataPath)
  | .array items => Reader.list read (.array items)
  | v => (read v).map ([·])

end DataPath

/-! ### Adapters -/

/-- Why an adapter among those of a tracker is refused. -/
inductive AdapterError where
  | invalid (adapter message : String)
  | otherTracker (adapter declared enclosing : String)
deriving DecidableEq

namespace Adapter

/-- The fields of an adapter as they are written. -/
structure Written where
  slug : String
  tracker : Option String
  endpoints : List TextMatcher
  predicate : Option RequestPredicate
  steps : List Step
  dataPaths : Json.Members

def fields : List (Field Json ShapeError Written) :=
  [.must "slug" Reader.string fun slug w => { w with slug },
    .may "tracker" (Reader.optional Reader.string) fun tracker w => { w with tracker },
    .must "endpointUrls" (Reader.list TextMatcher.readEndpoint) fun endpoints w =>
      { w with endpoints },
    .may "match" (Reader.optional RequestPredicate.read) fun predicate w => { w with predicate },
    .may "decodingSteps" (Reader.list Step.read) fun steps w => { w with steps },
    .may "containedDataPaths" Reader.members fun dataPaths w => { w with dataPaths }]

def readWritten : Reader Written :=
  Reader.record "AdapterDocument" fields false ⟨"", none, [], none, [], []⟩

/-- The data paths under the name of a property. -/
def readProperty (entry : String × Json) : Except String (Property × List DataPath) :=
  match Property.ofName? entry.1 with
  | none => .error s!"containedDataPaths: {Property.unknownMessage entry.1}"
  | some property =>
    match DataPath.readSome entry.2 with
    | .ok paths => .ok (property, paths)
    | .error e => .error s!"containedDataPaths.{property.name}: {e.message}"

/-- The slug that a document claims, if it has one. -/
def slugOf : Json → String
  | .object members => ((Json.lookup "slug" members).bind Json.string?).getD "<unnamed>"
  | _ => "<unnamed>"

/-- Reads an adapter among those of a tracker. -/
def read (tracker : Tracker) (v : Json) : Except AdapterError Adapter :=
  let id := tracker.slug ++ "/" ++ slugOf v
  match readWritten v with
  | .error e => .error (.invalid id e.message)
  | .ok w =>
    if w.tracker.any (· != tracker.slug) then
      .error (.otherTracker id (w.tracker.getD "") tracker.slug)
    else if w.endpoints.isEmpty then .error (.invalid id "no endpointUrls")
    else
      match w.dataPaths.mapM readProperty with
      | .error message => .error (.invalid id message)
      | .ok dataPaths => .ok ⟨tracker, w.slug, w.endpoints, w.predicate, w.steps, dataPaths⟩

end Adapter

end TrackerTraffic
