import TrackerTraffic.Pattern.Basic
import TrackerTraffic.Pattern.SetName
import TrackerTraffic.Text.Hex
import TrackerTraffic.Text.Letter

/-!
# Flags and escapes of pattern text

What a backslash introduces, and the flags that change how pattern text reads.
In verbose text blanks and comments between the characters of an escape are
skipped as well.
-/

namespace TrackerTraffic.Pattern

/-- How the text that follows is read. -/
structure Flags where
  ignoreCase : Bool
  multiLine : Bool
  dotAll : Bool
  crlf : Bool
  unicode : Bool
  verbose : Bool

/-- The flags at the start of a pattern. -/
def Flags.initial : Flags := ⟨false, false, false, false, true, false⟩

/-- The flags at the start of a pattern that ignores case. -/
def Flags.caseless : Flags := { Flags.initial with ignoreCase := true }

/-- Text without its leading blanks and, from `#` to the line's end, comments. -/
def skipVerbose (comment : Bool) : List Char → List Char
  | [] => []
  | c :: rest =>
    if comment then skipVerbose (c != '\n') rest
    else if Text.isBlank c then skipVerbose false rest
    else if c = '#' then skipVerbose true rest
    else c :: rest

/-- What the parser looks at next: in verbose text without blanks and comments. -/
def Flags.skip (flags : Flags) (cs : List Char) : List Char :=
  if flags.verbose then skipVerbose false cs else cs

/-- What one character of pattern text, or one escape, stands for. -/
inductive Atom where
  | literal (c : Char) (byteEscape : Bool)
  | set (set : CharSet)
  | look (condition : Look)

/-! ### Sets under flags -/

/-- The set with the case variants of its characters, if case is ignored. -/
def Flags.fold (flags : Flags) (set : CharSet) : CharSet :=
  if flags.ignoreCase then (if flags.unicode then .folded set else .foldedAscii set) else set

/-- The complement, if one is wanted; a set of bytes has none that is text. -/
def Flags.negate? (flags : Flags) (negated : Bool) (set : CharSet) : Option CharSet :=
  if negated then (if flags.unicode then some (.compl set) else none) else some set

/-- Whether a character may be a member of a set; sets of bytes hold ASCII only. -/
def Flags.allows (flags : Flags) (c : Char) : Bool := flags.unicode || c.toNat < 128

/-- The set of digits, blanks or word characters. -/
def Flags.perlSet (flags : Flags) (letter : Char) : CharSet :=
  if letter = 'd' then (if flags.unicode then .digit else .range 48 57)
  else if letter = 's' then
    (if flags.unicode then .blank else .union (.range 9 13) (.range 32 32))
  else if flags.unicode then .word
  else .union (.union (.range 48 57) (.range 65 90)) (.union (.range 97 122) (.range 95 95))

/-! ### Numbers -/

/-- The number of hexadecimal digits, if all are. -/
def hexNumber? (digits : List Char) : Option Nat :=
  digits.foldlM (fun n c => do return n * 16 + (← Text.hexValue? c)) 0

/-- The character of a code point, if it is one. -/
def scalar? (n : Nat) : Option Char :=
  if n < 0xD800 ∨ (0xE000 ≤ n ∧ n < 0x110000) then some (Char.ofNat n) else none

def takeHex? (flags : Flags) : Nat → List Char → Option (List Char × List Char)
  | 0, cs => some ([], cs)
  | _ + 1, [] => none
  | count + 1, c :: rest => do
    let _ ← Text.hexValue? c
    let (digits, after) ← takeHex? flags count (flags.skip rest)
    return (c :: digits, after)

/-- Characters up to a closing brace, and what follows it; `limit` bounds their number. -/
def takeBraced? (flags : Flags) : Nat → List Char → Option (List Char × List Char)
  | 0, _ => none
  | _ + 1, [] => none
  | limit + 1, c :: rest =>
    if c = '\x7d' then some ([], rest)
    else (takeBraced? flags limit (flags.skip rest)).map fun p => (c :: p.1, p.2)

/-- A character written in hexadecimal, behind the letter of its escape. -/
def hexEscape? (flags : Flags) (count : Nat) (cs : List Char) : Option (Atom × List Char) :=
  match flags.skip cs with
  | '\x7b' :: rest => do
    let (digits, after) ← takeBraced? flags (rest.length + 1) (flags.skip rest)
    if digits.isEmpty then none
    let c ← scalar? (← hexNumber? digits)
    return (.literal c false, flags.skip after)
  | rest => do
    let (digits, after) ← takeHex? flags count rest
    let c ← scalar? (← hexNumber? digits)
    return (.literal c (count == 2), after)

/-! ### Named sets -/

/-- Splits a name at the first occurrence of a separator. -/
def splitName? (separator : List Char) : List Char → Option (List Char × List Char)
  | [] => none
  | c :: rest =>
    if separator.isPrefixOf (c :: rest) then some ([], (c :: rest).drop separator.length)
    else (splitName? separator rest).map fun p => (c :: p.1, p.2)

/-- The set of a name in braces; the flag says that the complement is meant. -/
def bracedSet? (name : List Char) : Option (CharSet × Bool) :=
  match splitName? ['!', '='] name with
  | some (name, value) => (CharSet.ofNameAndValue? name value).map (·, true)
  | none =>
    match (splitName? [':'] name).or (splitName? ['='] name) with
    | some (name, value) => (CharSet.ofNameAndValue? name value).map (·, false)
    | none => (CharSet.ofName? name).map (·, false)

/-- A named set, behind the letter of its escape. -/
def namedSet? (flags : Flags) (negated : Bool) (cs : List Char) : Option (Atom × List Char) := do
  if !flags.unicode then none
  let finish (set : CharSet) (inverted : Bool) (rest : List Char) : Option (Atom × List Char) := do
    return (.set (← flags.negate? (negated != inverted) (flags.fold set)), rest)
  match flags.skip cs with
  | [] => none
  | '\x7b' :: rest =>
    let (name, after) ← takeBraced? flags (rest.length + 1) (flags.skip rest)
    let (set, inverted) ← bracedSet? name
    finish set inverted after
  | c :: rest =>
    if c = '\\' then none
    else finish (← CharSet.ofName? [c]) false (flags.skip rest)

/-! ### Places -/

/-- The condition of a name in braces behind `\b`. -/
def boundaryNamed? (unicode : Bool) (name : List Char) : Option Look :=
  match String.ofList name with
  | "start" => some (.wordStart unicode)
  | "end" => some (.wordStop unicode)
  | "start-half" => some (.wordStartHalf unicode)
  | "end-half" => some (.wordStopHalf unicode)
  | _ => none

def isBoundaryChar (c : Char) : Bool := c.isAlpha || c == '-'

/-- A word boundary, which may be qualified in braces; other braces are left for a repetition. -/
def boundaryEscape? (flags : Flags) (cs : List Char) : Option (Atom × List Char) :=
  match cs with
  | '\x7b' :: rest =>
    match flags.skip rest with
    | [] => none
    | c :: inner =>
      if isBoundaryChar c then do
        let (name, after) ← takeBraced? flags (inner.length + 2) (c :: inner)
        if !name.all isBoundaryChar then none
        return (.look (← boundaryNamed? flags.unicode name), after)
      else some (.look (.wordBoundary flags.unicode), cs)
  | cs => some (.look (.wordBoundary flags.unicode), cs)

/-- The escaped character stands for itself: ASCII that is no letter, digit or angle bracket. -/
def isEscapable (c : Char) : Bool :=
  c.toNat < 128 && !c.isAlphanum && c != '<' && c != '>'

/-- What a backslash and the text behind it stand for. -/
def escape? (flags : Flags) : List Char → Option (Atom × List Char)
  | [] => none
  | c :: rest =>
    match c with
    | 'x' => hexEscape? flags 2 rest
    | 'u' => hexEscape? flags 4 rest
    | 'U' => hexEscape? flags 8 rest
    | 'p' => namedSet? flags false rest
    | 'P' => namedSet? flags true rest
    | 'd' => some (.set (flags.perlSet 'd'), rest)
    | 's' => some (.set (flags.perlSet 's'), rest)
    | 'w' => some (.set (flags.perlSet 'w'), rest)
    | 'D' => (flags.negate? true (flags.perlSet 'd')).map (.set ·, rest)
    | 'S' => (flags.negate? true (flags.perlSet 's')).map (.set ·, rest)
    | 'W' => (flags.negate? true (flags.perlSet 'w')).map (.set ·, rest)
    | 'a' => some (.literal '\x07' false, rest)
    | 'f' => some (.literal '\x0c' false, rest)
    | 't' => some (.literal '\t' false, rest)
    | 'n' => some (.literal '\n' false, rest)
    | 'r' => some (.literal '\r' false, rest)
    | 'v' => some (.literal '\x0b' false, rest)
    | 'A' => some (.look .start, rest)
    | 'z' => some (.look .stop, rest)
    | 'b' => boundaryEscape? flags rest
    | 'B' => some (.look (.notWordBoundary flags.unicode), rest)
    | '<' => some (.look (.wordStart flags.unicode), rest)
    | '>' => some (.look (.wordStop flags.unicode), rest)
    | c => if isEscapable c then some (.literal c false, rest) else none

end TrackerTraffic.Pattern
