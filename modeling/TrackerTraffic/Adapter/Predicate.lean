import TrackerTraffic.Adapter.TextMatcher
import TrackerTraffic.Request.Basic
import TrackerTraffic.Text.Search

/-!
# Predicates on requests

What an adapter asks of a request besides its endpoint.
-/

namespace TrackerTraffic

/-- A condition on a request. -/
inductive RequestPredicate where
  | contentStartsWith (start : String)
  | contentMatches (regex : Regex)
  | headerEquals (name value : String)
  | headerPresent (name : String)
  | methodIs (method : String)
  | queryContains (part : String)
  | all (of : List RequestPredicate)
  | any (of : List RequestPredicate)
  | not (predicate : RequestPredicate)
  | custom (holds : Request → Bool)

namespace RequestPredicate

mutual
/-- The request meets the condition; what it lacks meets none. -/
def accepts : RequestPredicate → Request → Bool
  | contentStartsWith start, r => r.content.any (Text.startsWith · start)
  | contentMatches regex, r => r.content.any regex.occursIn
  | headerEquals name value, r => r.header name == some value
  | headerPresent name, r => (r.header name).isSome
  | methodIs method, r => Text.sameUpToAsciiCase r.method method
  | queryContains part, r => r.queryString.any (Text.contains · part)
  | all of, r => acceptedByAll of r
  | any of, r => acceptedByAny of r
  | not predicate, r => !predicate.accepts r
  | custom holds, r => holds r

def acceptedByAll : List RequestPredicate → Request → Bool
  | [], _ => true
  | p :: rest, r => p.accepts r && acceptedByAll rest r

def acceptedByAny : List RequestPredicate → Request → Bool
  | [], _ => false
  | p :: rest, r => p.accepts r || acceptedByAny rest r
end

end RequestPredicate

end TrackerTraffic
