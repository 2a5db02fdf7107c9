import TrackerTraffic.Text.Category
import TrackerTraffic.Text.Normal
import TrackerTraffic.Url.Direction
import TrackerTraffic.Url.HostCharacter
import TrackerTraffic.Url.Punycode

/-!
# Domain names

A domain name in ASCII, by Unicode Technical Standard 46: characters are mapped and
normalized, labels in Punycode are read and checked, and labels with other characters
than ASCII are written in Punycode.
-/

namespace TrackerTraffic.Url.Domain

/-! ### Labels -/

/-- The mark in front of a label in Punycode. -/
def punycodeMark : List Char := ['x', 'n', '-', '-']

def isAscii (label : List Char) : Bool := label.all (·.toNat < 128)

/-- An ASCII character that no host name has. -/
def isForbidden (c : Char) : Bool :=
  c.toNat ≤ 32 || c.toNat == 127 ||
    ['%', '#', '/', ':', '<', '>', '?', '@', '[', '\\', ']', '^', '|'].contains c

/-- The label in its own characters, `none` if its Punycode is not what would be written. -/
def decodeLabel? (label : List Char) : Option (List Char) :=
  if punycodeMark.isPrefixOf label then
    match Punycode.decode? (label.drop 4) with
    | some text =>
      if isAscii text || !text.all isHostCharacter || Text.normalize text != text then none
      else some text
    | none => none
  else some label

/-- A mark that is written on the letter in front. -/
def isCombining (c : Char) : Bool :=
  Text.Category.mn.contains c || Text.Category.mc.contains c || Text.Category.me.contains c

def isVirama (c : Char) : Bool := Text.markClass c.toNat == 9

/-- The text reversed in front of a place joins what comes behind it. -/
def joinsBackwards (before : List Char) : Bool :=
  (before.dropWhile joinsThrough).head?.any joinsNext

/-- The text behind a place joins what comes in front of it. -/
def joinsForwards (after : List Char) : Bool :=
  (after.dropWhile joinsThrough).head?.any joinsPrevious

/-- Joiners stand only where they have an effect; `before` is what comes in front, reversed. -/
def joinersFit (before : List Char) : List Char → Bool
  | [] => true
  | c :: rest =>
    let afterVirama := before.head?.any isVirama
    (if c = '\u200C' then afterVirama || (joinsBackwards before && joinsForwards rest)
      else if c = '\u200D' then afterVirama
      else true) && joinersFit (c :: before) rest

/-- The label has only what a label may have. -/
def isValidLabel (label : List Char) : Bool :=
  !label.any isForbidden && (isAscii label || (!label.head?.any isCombining && joinersFit [] label))

/-! ### Directions -/

/-- The classes of a label's characters without the marks at its end. -/
def withoutEndMarks (classes : List Direction) : List Direction :=
  (classes.reverse.dropWhile (· == .mark)).reverse

/-- A label written from right to left has no letters of the other direction. -/
def fitsRightToLeft (classes : List Direction) : Bool :=
  !classes.contains .leftToRight &&
    !(classes.contains .arabicNumber && classes.contains .europeanNumber) &&
    (withoutEndMarks classes).getLast?.any
      fun d => d == .rightToLeft || d == .arabicNumber || d == .europeanNumber

/-- A label written from left to right has no letters and numbers of the other direction. -/
def fitsLeftToRight (classes : List Direction) : Bool :=
  !classes.contains .rightToLeft && !classes.contains .arabicNumber &&
    (withoutEndMarks classes).getLast?.any fun d => d == .leftToRight || d == .europeanNumber

/-- The label can stand in a domain that is written in both directions. -/
def fitsDirections (label : List Char) : Bool :=
  let classes := label.map directionOf
  match classes with
  | [] => true
  | .rightToLeft :: _ => fitsRightToLeft classes
  | .leftToRight :: _ => fitsLeftToRight classes
  | _ => false

/-- The label has characters that are written from right to left. -/
def isRightToLeft (label : List Char) : Bool :=
  !isAscii label && label.any fun c =>
    directionOf c == .rightToLeft || directionOf c == .arabicNumber

/-! ### Domains -/

def encodeLabel (label : List Char) : List Char :=
  if isAscii label then label else punycodeMark ++ Punycode.encode label

def join : List (List Char) → List Char
  | [] => []
  | [label] => label
  | label :: rest => label ++ '.' :: join rest

/-- The domain in ASCII, `none` if it is none. -/
def toAscii? (domain : List Char) : Option (List Char) := do
  let mapped ← domain.mapM hostMapping?
  let labels ← (CodeTable.cutAt '.' (Text.normalize mapped.flatten)).mapM decodeLabel?
  if labels.all isValidLabel && (!labels.any isRightToLeft || labels.all fitsDirections) then
    some (join (labels.map encodeLabel))
  else none

end TrackerTraffic.Url.Domain
