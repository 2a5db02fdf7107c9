import TrackerTraffic.Pattern.Parser
import TrackerTraffic.Shape.Reader

/-!
# Matching texts

A text is compared as a whole or searched by a regular expression.
-/

namespace TrackerTraffic

/-- A regular expression with the text it was read from. -/
structure Regex where
  source : String
  pattern : Pattern

namespace Regex

def parse (source : String) : Except PatternError Regex :=
  (Pattern.parse source).map fun pattern => ⟨source, pattern⟩

/-- The expression fits some part of the text. -/
def occursIn (regex : Regex) (text : String) : Bool := regex.pattern.occursIn text

def read : Reader Regex :=
  Reader.parsed fun text => (parse text).mapError PatternError.message

end Regex

/-- What a text is compared with. -/
inductive TextMatcher where
  | exact (text : String)
  | regex (regex : Regex)

namespace TextMatcher

/-- The text is the expected one or contains what the expression describes. -/
def fits (m : TextMatcher) (text : String) : Bool :=
  match m with
  | exact expected => expected == text
  | regex r => r.occursIn text

/-- The only field of a matcher by regular expression. -/
def fields : List (Field Json ShapeError (Option Regex)) :=
  [.must "regex" Regex.read fun regex _ => some regex]

/--
Reads a text or a record with a regular expression; whatever is wrong, the error is
that no form of the choice `title` fits.
-/
def read (title : String) : Reader TextMatcher
  | .string s => .ok (.exact s)
  | .object members =>
    match Reader.ofEntries fields false none members with
    | .ok (some r) => .ok (.regex r)
    | _ => .error (.noVariant title)
  | _ => .error (.noVariant title)

def readEndpoint : Reader TextMatcher := read "EndpointMatcher"

def readValue : Reader TextMatcher := read "ValuePredicate"

end TextMatcher

end TrackerTraffic
