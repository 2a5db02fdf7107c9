/-!
# Pattern text for literals

Texts as patterns that fit just these texts: every sign with a meaning of its own is
escaped, and a bar stands between one text and the next.
-/

namespace TrackerTraffic.Pattern

/-- The characters that mean something else in pattern text, at least in some places of it. -/
def signs : List Char :=
  ['\\', '.', '+', '*', '?', '(', ')', '|', '[', ']', '\x7b', '\x7d', '^', '$', '#', '&', '-', '~']

def isSign (c : Char) : Bool := signs.contains c

/-- The text of a pattern that fits a literal text. -/
def quote (literal : List Char) : List Char :=
  literal.flatMap fun c => if isSign c then ['\\', c] else [c]

/-- The text of a pattern that fits each of some literal texts. -/
def quoteAny (literals : List (List Char)) : List Char := ['|'].intercalate (literals.map quote)

end TrackerTraffic.Pattern
