import TrackerTraffic.Text.Integer

/-!
# Keys of query strings

A key such as `a[b][]` is a way into a tree: a name, and then what stands in up to
five pairs of brackets.
-/

namespace TrackerTraffic.QueryString

/-- One step of a way into a tree: a member, a position in an array, or a new last item. -/
inductive Key where
  | name (text : List Char)
  | index (position : Nat)
  | push
deriving DecidableEq

/-- The most brackets that a key may open; what follows them stays a literal name. -/
def maxDepth : Nat := 5

/-- The greatest number in brackets that is a position. -/
def maxIndex : Nat := 20

/-- The step that the text between two brackets stands for. -/
def Key.ofSegment (segment : List Char) : Key :=
  if segment.isEmpty then .push
  else
    match Text.unsigned? segment with
    | some n => if n ≤ maxIndex then .index n else .name segment
    | none => .name segment

/-- Reads at most so many bracketed steps; what is left over is a name. -/
def readBrackets : Nat → List Char → List Key
  | _, [] => []
  | 0, rest => [.name rest]
  | depth + 1, '[' :: inner =>
    if inner.contains ']' then
      .ofSegment (inner.takeWhile (· != ']')) ::
        readBrackets depth ((inner.dropWhile (· != ']')).drop 1)
    else [.name ('[' :: inner)]
  | _ + 1, rest => [.name rest]

def readKey (key : List Char) : List Key :=
  let root := key.takeWhile (· != '[')
  let brackets := key.dropWhile (· != '[')
  if brackets.contains ']' then
    (if root.isEmpty then [] else [.name root]) ++ readBrackets maxDepth brackets
  else [.name key]

end TrackerTraffic.QueryString
