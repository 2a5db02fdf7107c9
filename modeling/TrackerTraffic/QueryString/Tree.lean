import TrackerTraffic.Json.Basic
import TrackerTraffic.QueryString.Form
import TrackerTraffic.QueryString.Key

/-!
# Trees from query strings

The pairs of a query string are entered into a tree one after another.  A value
that is already at a way's end is kept beside the new one in an array; a way that
would lead through text is not entered; a name turns an array into an object.
-/

namespace TrackerTraffic.QueryString

def Key.isName : Key → Bool
  | .name _ => true
  | _ => false

/-- Where a step leads inside a container. -/
inductive Place where
  | member (name : String)
  | item (position : Nat)
deriving DecidableEq

/-- The items as members named by their positions, from a first one on. -/
def numberItems : Nat → List Json → Json.Members
  | _, [] => []
  | n, v :: rest => (toString n, v) :: numberItems (n + 1) rest

/-- An array as an object; any other value as it is. -/
def arrayToObject : Json → Json
  | .array items => .object (numberItems 0 items)
  | v => v

/-- The place a step leads to; a position beyond an array's end is its end. -/
def place? (key : Key) : Json → Option Place
  | .object members =>
    match key with
    | .name text => some (.member (String.ofList text))
    | .index n => some (.member (toString n))
    | .push => some (.member (toString members.length))
  | .array items =>
    match key with
    | .name _ => none
    | .index n => some (.item (if n < items.length then n else items.length))
    | .push => some (.item items.length)
  | _ => none

def child? : Place → Json → Option Json
  | .member name, .object members => Json.lookup name members
  | .item n, .array items => items[n]?
  | _, _ => none

/-- The container with a value at a place. -/
def store (place : Place) (value : Json) : Json → Json
  | .object members =>
    match place with
    | .member name => .object (Json.insert name value members)
    | .item _ => .object members
  | .array items =>
    match place with
    | .item n => if n < items.length then .array (items.set n value) else .array (items ++ [value])
    | .member _ => .array items
  | v => v

def combine (existing value : Json) : Json :=
  match existing with
  | .array items => .array (items ++ [value])
  | first => .array [first, value]

def isContainer : Json → Bool
  | .array _ => true
  | .object _ => true
  | _ => false

/-- The node as the step wants it: names are entered into objects only. -/
def adapt (key : Key) (node : Json) : Json := if key.isName then arrayToObject node else node

/-- Enters a value at the last step of its way. -/
def setLeaf (key : Key) (value node : Json) : Json :=
  let node := adapt key node
  match place? key node with
  | none => node
  | some place =>
    match child? place node with
    | none => store place value node
    | some existing =>
      if key = .push then store place value node else store place (combine existing value) node

/-- The empty container that the next step needs. -/
def freshFor (next : Key) : Json := if next.isName then .object [] else .array []

/-- Enters a value at the end of a way. -/
def insert (value : Json) : List Key → Json → Json
  | [], node => node
  | [key], node => setLeaf key value node
  | key :: next :: rest, node =>
    let node := adapt key node
    match place? key node with
    | none => node
    | some place =>
      let child := (child? place node).getD (freshFor next)
      if isContainer child then store place (insert value (next :: rest) child) node else node

/-- The tree with one more pair; a pair without a name is left out. -/
def enter (root : Json) (pair : List Char × List Char) : Json :=
  if pair.1.isEmpty then root
  else insert (.string (String.ofList pair.2)) (readKey pair.1) root

/-- The text behind the first question mark, or all of it. -/
def afterQuestionMark (cs : List Char) : List Char :=
  if cs.contains '?' then (cs.dropWhile (· != '?')).drop 1 else cs

/-- The tree of a query string, or of what follows the first question mark of a text. -/
def parse (text : String) : Json :=
  (Form.decode (afterQuestionMark text.toList)).foldl enter (.object [])

end TrackerTraffic.QueryString
