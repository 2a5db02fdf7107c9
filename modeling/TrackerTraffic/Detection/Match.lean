import TrackerTraffic.Adapter.Context
import TrackerTraffic.Adapter.Property
import TrackerTraffic.Json.Basic

/-!
# Matches

A match is a value of a property that was found in a request, with the place and the
reason.
-/

namespace TrackerTraffic

/-- A value that was found; without an adapter, by searching for a known value. -/
structure Match where
  adapter : Option String
  property : Property
  context : Context
  path : String
  reasoning : String
  value : Json

/-- The values of the matches of each property that has some, in the order of properties. -/
def Match.valuesByProperty (found : List Match) : List (Property × List Json) :=
  (Property.all.map fun property =>
    (property, (found.filter (·.property == property)).map Match.value)).filter (!·.2.isEmpty)

end TrackerTraffic
