import TrackerTraffic.Bytes.Base64
import TrackerTraffic.Bytes.Percent
import TrackerTraffic.Detection.Match
import TrackerTraffic.Pattern.Literal
import TrackerTraffic.Pattern.Parser
import TrackerTraffic.Request.Basic
import TrackerTraffic.Shape.Reader
import TrackerTraffic.Text.CaseFold
import TrackerTraffic.Text.Utf8

/-!
# Indicators

Known values, planted on a device, that are looked for in requests as they are, in
base64 and percent-encoded, in either case.  Processing looks for the pattern of a
value's spellings; the search for the spellings themselves finds the same unless a
pattern is too large.
-/

namespace TrackerTraffic

abbrev Indicators := List (Property × List String)

namespace Indicator

/-! ### Variants -/

def bytesBefore (a b : List Char) : Bool := decide (Utf8.encode a ≤ Utf8.encode b)

def distinct : List (List Char) → List (List Char)
  | a :: b :: rest => if a = b then distinct (b :: rest) else a :: distinct (b :: rest)
  | short => short

/-- The spellings in which a value is looked for, in the order of their bytes. -/
def variants (value : String) : List (List Char) :=
  let cs := value.toList
  let bytes := Utf8.encode cs
  distinct ([cs, Base64.encode bytes, Base64.encodeUnpadded bytes,
    Percent.encode Percent.notAlphanumeric cs].mergeSort bytesBefore)

/-! ### Search -/

/-- The text starts with the pattern but for the case of letters. -/
def startsUpToCase : List Char → List Char → Bool
  | [], _ => true
  | _, [] => false
  | p :: pattern, c :: text => Text.sameUpToCase p c && startsUpToCase pattern text

/-- The pattern occurs somewhere in the text but for the case of letters. -/
def occursUpToCase (pattern : List Char) : List Char → Bool
  | [] => pattern.isEmpty
  | c :: text => startsUpToCase pattern (c :: text) || occursUpToCase pattern text

/-- A part of a request in which values are looked for. -/
structure Part where
  context : Context
  path : String
  text : String

/-- The parts of a request: headers and cookies by name, then the rest. -/
def parts (r : Request) : List Part :=
  (r.headers.map fun h => ⟨.header, h.name, h.value⟩) ++
  (r.cookies.map fun c => ⟨.cookie, c.name, c.value⟩) ++
  [⟨.path, Context.path.name, r.pathOnly⟩] ++
  (r.queryString.toList.map fun q => ⟨.query, Context.query.name, q⟩) ++
  (r.content.toList.map fun c => ⟨.body, Context.body.name, c⟩)

/-- The reason given for matches of known values. -/
def reasoning : String := "indicator"

/-- The matches of one value, at most one in each part; the empty value has none. -/
def matchesOf (r : Request) (property : Property) (value : String) : List Match :=
  if value.isEmpty then []
  else
    let spellings := variants value
    ((parts r).filter fun part => spellings.any (occursUpToCase · part.text.toList)).map
      fun part => ⟨none, property, part.context, part.path, reasoning, .string value⟩

/-- The pattern of a value's spellings in either case, unless it is too large. -/
def pattern? (value : String) : Option Pattern :=
  (Pattern.parseUnder .caseless (String.ofList (Pattern.quoteAny (variants value)))).toOption

/-- The matches of one value that its pattern finds; a value without a pattern has none. -/
def patternMatchesOf (r : Request) (property : Property) (value : String) : List Match :=
  if value.isEmpty then []
  else
    match pattern? value with
    | none => []
    | some pattern =>
      ((parts r).filter fun part => pattern.occursIn part.text).map
        fun part => ⟨none, property, part.context, part.path, reasoning, .string value⟩

end Indicator

namespace Indicators

/-- The known values in the order of properties. -/
def inOrder (known : Indicators) : Indicators :=
  Property.all.filterMap fun property => known.find? (·.1 == property)

/-- The matches of all values, by their spellings. -/
def matchesIn (known : Indicators) (r : Request) : List Match :=
  known.inOrder.flatMap fun entry => entry.2.flatMap (Indicator.matchesOf r entry.1)

/-- The matches of all values, by their patterns. -/
def patternMatchesIn (known : Indicators) (r : Request) : List Match :=
  known.inOrder.flatMap fun entry => entry.2.flatMap (Indicator.patternMatchesOf r entry.1)

def readEntry (entry : String × Json) : Except ShapeError (Property × List String) := do
  let property ← Reader.variant Property.name Property.all entry.1
  return (property, ← Reader.list Reader.string entry.2)

def read : Reader Indicators := fun v => do (← Reader.members v).mapM readEntry

end Indicators

end TrackerTraffic
