import TrackerTraffic.Json.Basic
import TrackerTraffic.Pattern.Basic

/-!
# Read paths

A read path is a list of segments, each of which leads from a value to some of
the values inside it.  A filter segment keeps the children for which a condition
holds; conditions compare operands, which start from the child, its key or a
literal and follow members, indices and methods from there.
-/

namespace TrackerTraffic.Path

/-- The methods that a condition may call. -/
inductive Method where
  | startsWith
  | endsWith
  | includes
  | matchPattern
  | test
  | toLowerCase
  | toUpperCase
deriving DecidableEq

def Method.name : Method → String
  | .startsWith => "startsWith"
  | .endsWith => "endsWith"
  | .includes => "includes"
  | .matchPattern => "match"
  | .test => "test"
  | .toLowerCase => "toLowerCase"
  | .toUpperCase => "toUpperCase"

def Method.all : List Method :=
  [.startsWith, .endsWith, .includes, .matchPattern, .test, .toLowerCase, .toUpperCase]

def Method.ofName? (name : String) : Option Method := Method.all.find? (·.name == name)

/-- What an operand starts from. -/
inductive Base where
  | current
  | key
  | literal (value : Json)
  | undefined
  | pattern (pattern : Pattern)

mutual
/-- A base and what follows it, applied from left to right. -/
inductive Operand where
  | mk (base : Base) (accessors : List Accessor)

/-- One step from a value to a value. -/
inductive Accessor where
  | member (name : String)
  | index (position : Int)
  | call (method : Method) (arguments : List Operand)
end

/-- The comparisons between operands. -/
inductive Comparison where
  | strictEq
  | strictNe
  | looseEq
  | looseNe
  | lt
  | le
  | gt
  | ge
deriving DecidableEq

def Comparison.sign : Comparison → String
  | .strictEq => "==="
  | .strictNe => "!=="
  | .looseEq => "=="
  | .looseNe => "!="
  | .lt => "<"
  | .le => "<="
  | .gt => ">"
  | .ge => ">="

/-- A condition on a child and its key. -/
inductive Filter where
  | or (a b : Filter)
  | and (a b : Filter)
  | not (a : Filter)
  | compare (left : Operand) (comparison : Comparison) (right : Operand)
  | truthy (operand : Operand)

/-- One step of a path. -/
inductive Segment where
  | child (name : String)
  | index (position : Int)
  | wildcard
  | filter (condition : Filter)
  | descendant (inner : Segment)

end TrackerTraffic.Path

namespace TrackerTraffic

/-- A read path with the text it was read from. -/
structure Path where
  source : String
  segments : List Path.Segment

end TrackerTraffic
