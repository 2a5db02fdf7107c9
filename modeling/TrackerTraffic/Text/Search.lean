/-!
# Searching texts

Occurrences of one text in another, and cutting a text at the occurrences of a
separator, leftmost first and without overlaps.
-/

namespace TrackerTraffic.Text

def occurs (pattern : List Char) : List Char → Bool
  | [] => pattern.isEmpty
  | c :: rest => pattern.isPrefixOf (c :: rest) || occurs pattern rest

def contains (text pattern : String) : Bool := occurs pattern.toList text.toList

def startsWith (text start : String) : Bool := start.toList.isPrefixOf text.toList

def endsWith (text stop : String) : Bool := stop.toList.isSuffixOf text.toList

/--
The parts between occurrences of the separator.  `skip` counts the characters of
an occurrence that are still to be passed over.
-/
def splitFrom (separator : List Char) : Nat → List Char → List (List Char)
  | _, [] => [[]]
  | skip + 1, _ :: rest => splitFrom separator skip rest
  | 0, c :: rest =>
    if separator.isPrefixOf (c :: rest) then
      [] :: splitFrom separator (separator.length - 1) rest
    else
      match splitFrom separator 0 rest with
      | first :: others => (c :: first) :: others
      | [] => [[c]]

/-- The parts between occurrences of a separator; without a separator, the characters. -/
def split (separator text : List Char) : List (List Char) :=
  if separator.isEmpty then text.map ([·]) else splitFrom separator 0 text

end TrackerTraffic.Text
