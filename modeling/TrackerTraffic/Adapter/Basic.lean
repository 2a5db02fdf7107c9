import TrackerTraffic.Adapter.Context
import TrackerTraffic.Adapter.Predicate
import TrackerTraffic.Adapter.Property
import TrackerTraffic.Step.Basic

/-!
# Adapters

An adapter tells which requests of a tracker it handles, how they are decoded, and
where in the decoded tree the properties stand.
-/

namespace TrackerTraffic

/-- A tracking company. -/
structure Tracker where
  slug : String
  name : String
  datenanfragenSlug : Option String := none
  exodusId : Option UInt32 := none
deriving DecidableEq, Inhabited

/-- Where values of one property stand, and which of them count. -/
structure DataPath where
  context : Context
  path : Path
  reasoning : String
  onlyIf : Option TextMatcher := none
  notIf : Option TextMatcher := none

/-- How requests of one shape are decoded and read. -/
structure Adapter where
  tracker : Tracker
  slug : String
  endpoints : List TextMatcher := []
  predicate : Option RequestPredicate := none
  steps : List Step := []
  dataPaths : List (Property × List DataPath) := []

namespace Adapter

def id (a : Adapter) : String := a.tracker.slug ++ "/" ++ a.slug

def dataPathsOf (a : Adapter) (property : Property) : List DataPath :=
  match a.dataPaths.find? (·.1 == property) with
  | some (_, paths) => paths
  | none => []

/-- The adapter handles the request: an endpoint fits, and so does the predicate. -/
def accepts (a : Adapter) (r : Request) : Bool :=
  a.endpoints.any (·.fits r.endpointUrl) && a.predicate.all (·.accepts r)

end Adapter

end TrackerTraffic
