import TrackerTraffic.Path.Condition

/-!
# Querying values

A segment leads from a value to values inside it, in document order; a path
follows its segments one after the other from every value reached so far.
-/

namespace TrackerTraffic.Path

mutual
/-- A value and everything inside it, each value before what it contains. -/
def descendants : Json → List Json
  | .array items => .array items :: itemDescendants items
  | .object members => .object members :: memberDescendants members
  | v => [v]

def itemDescendants : List Json → List Json
  | [] => []
  | v :: rest => descendants v ++ itemDescendants rest

def memberDescendants : Json.Members → List Json
  | [] => []
  | (_, v) :: rest => descendants v ++ memberDescendants rest
end

def keyedItems (items : List Json) : List (Json × Json) :=
  items.zipIdx.map fun entry => (.ofNat entry.2, entry.1)

/-- The members' values with their names as keys. -/
def keyedMembers (members : Json.Members) : List (Json × Json) :=
  members.map fun entry => (.string entry.1, entry.2)

/-- The children of a value with their keys. -/
def keyedChildren : Json → List (Json × Json)
  | .array items => keyedItems items
  | .object members => keyedMembers members
  | _ => []

/-- The child of a name: in an array, the item at the position that the name spells. -/
def childNamed (name : String) : Json → Option Json
  | .object members => Json.lookup name members
  | .array items => (Text.unsigned? name.toList).bind (items[·]?)
  | _ => none

/-- The child at a position: in an object, the member that the position names. -/
def childAt (position : Int) : Json → Option Json
  | .array items => itemAt? items position
  | .object members => Json.lookup (toString position) members
  | _ => none

def Segment.select : Segment → Json → List Json
  | .child name, v => (childNamed name v).toList
  | .index position, v => (childAt position v).toList
  | .wildcard, v => (keyedChildren v).map Prod.snd
  | .filter condition, v =>
    ((keyedChildren v).filter fun entry => condition.holds entry.2 entry.1).map Prod.snd
  | .descendant inner, v => (descendants v).flatMap inner.select

/-- The values that segments lead to, from each of the given values. -/
def selectAll (segments : List Segment) (values : List Json) : List Json :=
  segments.foldl (fun values segment => values.flatMap segment.select) values

/-- The values that a path leads to, in document order. -/
def query (path : Path) (root : Json) : List Json := selectAll path.segments [root]

/-- Nothing for no value, the value itself for one, and an array for more. -/
def collapse : List Json → Option Json
  | [] => none
  | [v] => some v
  | values => some (.array values)

/-- The values that a path leads to, collapsed: at most one value. -/
def queryCollapsed (path : Path) (root : Json) : Option Json := collapse (path.query root)

end TrackerTraffic.Path
