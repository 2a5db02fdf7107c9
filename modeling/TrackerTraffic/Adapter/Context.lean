/-!
# Contexts

The parts of a request to which a piece of data is attributed.
-/

namespace TrackerTraffic

/-- A part of a request. -/
inductive Context where
  | header
  | cookie
  | path
  | query
  | body
deriving DecidableEq

namespace Context

/-- Every context, in order. -/
def all : List Context := [.header, .cookie, .path, .query, .body]

/-- The context's name, which is also its member in a decoded tree. -/
def name : Context → String
  | header => "header"
  | cookie => "cookie"
  | path => "path"
  | query => "query"
  | body => "body"

end Context

end TrackerTraffic
