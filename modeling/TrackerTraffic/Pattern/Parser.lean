import TrackerTraffic.Number.Power
import TrackerTraffic.Pattern.ClassText

/-!
# Reading patterns

`Pattern.parse` reads the text of a pattern.  Groups may set flags for the rest
of the group around them; repetitions apply to the item in front of them.  A
pattern that nests more than 250 deep is refused, and so is one whose automaton
would not fit into ten mebibytes.
-/

namespace TrackerTraffic

/-- Why a text is no pattern. -/
inductive PatternError where
  | malformed
  | tooLarge
deriving DecidableEq

/-- The error's text; what a malformed pattern lacks in particular is left out. -/
def PatternError.message : PatternError → String
  | .malformed => "regex parse error:..."
  | .tooLarge => "Compiled regex exceeds size limit of 10485760 bytes."

namespace Pattern

/-- A part of a sequence, whether it can be repeated, and the height of its text. -/
structure Item where
  pattern : Pattern
  repeatable : Bool
  height : Nat

/-- What has been read of a group: finished alternatives and the current sequence, newest first. -/
structure Branches where
  alternatives : List Item
  sequence : List Item

/-- The state of the reader: the current group, the groups around it, flags and group names. -/
structure State where
  flags : Flags
  current : Branches
  outer : List (Branches × Flags)
  names : List (List Char)

def State.initial (flags : Flags) : State := ⟨flags, ⟨[], []⟩, [], []⟩

/-! ### Joining parts -/

def joinSequence : List Pattern → Pattern
  | [] => empty
  | [p] => p
  | p :: rest => seq p (joinSequence rest)

def joinAlternatives : List Pattern → Pattern
  | [] => empty
  | [p] => p
  | p :: rest => alt p (joinAlternatives rest)

def maxHeight (items : List Item) : Nat := (items.map (·.height)).foldl max 0

def sequenceItem (items : List Item) : Item :=
  match items with
  | [] => ⟨empty, false, 0⟩
  | [item] => item
  | items => ⟨joinSequence (items.reverse.map (·.pattern)), true, 1 + maxHeight items⟩

def Branches.toItem (b : Branches) : Item :=
  match sequenceItem b.sequence :: b.alternatives with
  | [item] => item
  | items => ⟨joinAlternatives (items.reverse.map (·.pattern)), true, 1 + maxHeight items⟩

/-- The state with one more part of the current sequence. -/
def State.push (s : State) (item : Item) : State :=
  { s with current := { s.current with sequence := item :: s.current.sequence } }

/-! ### Atoms -/

/-- The pattern of one character or escape under the current flags. -/
def atomPattern? (flags : Flags) : Atom → Option Pattern
  | .literal c byteEscape =>
    if !flags.unicode && byteEscape && 128 ≤ c.toNat then none
    else if (Text.caseVariants c).length = 1 then some (one (.single c))
    else some (one (flags.fold (.single c)))
  | .set set => some (one set)
  | .look condition => some (look condition)

def dotSet (flags : Flags) : CharSet :=
  if flags.dotAll then .all
  else if flags.crlf then .compl (.union (.single '\r') (.single '\n'))
  else .compl (.single '\n')

/-! ### Groups and flags -/

/-- The letters in front of `:` or `)` in a group that sets flags, and what follows them. -/
def takeFlags? (seen : List Char) : List Char → Option (List Char × Char × List Char)
  | [] => none
  | c :: rest =>
    if c = ':' ∨ c = ')' then
      if seen.head? = some '-' then none else some (seen.reverse, c, rest)
    else if ['i', 'm', 's', 'U', 'u', 'R', 'x', '-'].contains c ∧ !seen.contains c then
      takeFlags? (c :: seen) rest
    else none

def Flags.set (flags : Flags) (letter : Char) (value : Bool) : Flags :=
  match letter with
  | 'i' => { flags with ignoreCase := value }
  | 'm' => { flags with multiLine := value }
  | 's' => { flags with dotAll := value }
  | 'R' => { flags with crlf := value }
  | 'u' => { flags with unicode := value }
  | 'x' => { flags with verbose := value }
  | _ => flags

/-- Sets the flags of a group; those behind a hyphen are cleared. -/
def Flags.setAll (flags : Flags) (letters : List Char) : Flags :=
  let on := letters.takeWhile (· != '-')
  let off := letters.dropWhile (· != '-')
  off.foldl (fun f c => f.set c false) (on.foldl (fun f c => f.set c true) flags)

/-- The character can stand in a group's name. -/
def isNameChar (first : Bool) (c : Char) : Bool :=
  c == '_' || (if first then Text.isAlphabetic c
    else c == '.' || c == '[' || c == ']' || Text.isAlphanumeric c)

/-- A group's name and what follows its closing angle bracket. -/
def takeName? (cs : List Char) : Option (List Char × List Char) :=
  let name := cs.takeWhile (· != '>')
  match name, cs.dropWhile (· != '>') with
  | c :: others, _ :: rest =>
    if isNameChar true c && others.all (isNameChar false) then some (name, rest) else none
  | _, _ => none

/-- Opens a group whose contents are read under the given flags. -/
def State.openGroup (s : State) (inner : Flags) (names : List (List Char)) : State :=
  { flags := inner, current := ⟨[], []⟩, outer := (s.current, s.flags) :: s.outer, names }

/-- Opens a group with a name of its own. -/
def State.openNamed? (s : State) (cs : List Char) : Option (State × List Char) := do
  let (name, rest) ← takeName? cs
  if s.names.contains name then none
  return (s.openGroup s.flags (name :: s.names), rest)

def State.group? (s : State) (cs : List Char) : Option (State × List Char) :=
  match s.flags.skip cs with
  | '?' :: '=' :: _ => none
  | '?' :: '!' :: _ => none
  | '?' :: '<' :: '=' :: _ => none
  | '?' :: '<' :: '!' :: _ => none
  | '?' :: 'P' :: '<' :: rest => s.openNamed? rest
  | '?' :: '<' :: rest => s.openNamed? rest
  | '?' :: rest => do
    let (letters, stop, rest) ← takeFlags? [] rest
    let flags := s.flags.setAll letters
    if stop = ':' then return (s.openGroup flags s.names, rest)
    else if letters.isEmpty then none
    else return ({ s with flags }.push ⟨empty, false, 0⟩, rest)
  | rest => some (s.openGroup s.flags s.names, rest)

def State.close? (s : State) : Option State :=
  match s.outer with
  | [] => none
  | (around, flags) :: outer =>
    let inner := s.current.toItem
    some ({ s with current := around, outer, flags }.push ⟨inner.pattern, true, 1 + inner.height⟩)

def State.alternate (s : State) : State :=
  { s with current := ⟨sequenceItem s.current.sequence :: s.current.alternatives, []⟩ }

/-! ### Repetitions -/

def State.repeatLast? (s : State) (least : Nat) (most : Option Nat) : Option State :=
  match s.current.sequence with
  | item :: others =>
    if item.repeatable then
      let repeated : Item := ⟨repeated item.pattern least most, true, 1 + item.height⟩
      some { s with current := { s.current with sequence := repeated :: others } }
    else none
  | [] => none

/-- Text without a sign that makes a repetition prefer few rounds. -/
def dropLazy : List Char → List Char
  | '?' :: rest => rest
  | cs => cs

/-- The digits of a count, blanks around them skipped; `limit` bounds their number. -/
def takeCount (flags : Flags) : Nat → List Char → List Char × List Char
  | 0, cs => ([], cs)
  | limit + 1, cs =>
    match cs with
    | c :: rest =>
      if c.isDigit then
        let (digits, after) := takeCount flags limit (flags.skip rest)
        (c :: digits, after)
      else ([], cs)
    | [] => ([], [])

/-- A count of a repetition: none if there is no digit, and refused beyond 32 bits. -/
def count? (flags : Flags) (cs : List Char) : Option (Option Nat × List Char) :=
  let cs := cs.dropWhile Text.isBlank
  let (digits, rest) := takeCount flags (cs.length + 1) cs
  let rest := rest.dropWhile Text.isBlank
  if digits.isEmpty then some (none, rest)
  else
    let n := digits.foldl (fun n c => n * 10 + (c.toNat - 48)) 0
    if n < pow2 32 then some (some n, flags.skip rest) else none

/-- The bounds of a counted repetition, behind its opening brace. -/
def bounds? (flags : Flags) (cs : List Char) : Option (Nat × Option Nat × List Char) := do
  let (least, rest) ← count? flags (flags.skip cs)
  match rest with
  | ',' :: rest =>
    match flags.skip rest with
    | '\x7d' :: rest => return (← least, none, rest)
    | rest =>
      let least ← least
      let (most, rest) ← count? flags rest
      let '\x7d' :: rest := rest | none
      if (← most) < least then none
      return (least, some (← most), rest)
  | '\x7d' :: rest => return (← least, some (← least), rest)
  | _ => none

/-- A counted repetition, behind its opening brace. -/
def State.counted? (s : State) (cs : List Char) : Option (State × List Char) := do
  let (least, most, rest) ← bounds? s.flags cs
  return (← s.repeatLast? least most, dropLazy (s.flags.skip rest))

/-! ### The whole pattern -/

/-- Reads the next piece of text; it takes at least one character. -/
def State.step? (s : State) (c : Char) (rest : List Char) : Option (State × List Char) :=
  let leaf (p : Pattern) (rest : List Char) : Option (State × List Char) :=
    some (s.push ⟨p, true, 0⟩, rest)
  match c with
  | '(' => s.group? rest
  | ')' => s.close?.map (·, rest)
  | '|' => some (s.alternate, rest)
  | '[' => do
    let (sized, rest) ← class? s.flags rest
    return (s.push ⟨one sized.set, true, sized.height⟩, rest)
  | '?' => (s.repeatLast? 0 (some 1)).map (·, dropLazy rest)
  | '*' => (s.repeatLast? 0 none).map (·, dropLazy rest)
  | '+' => (s.repeatLast? 1 none).map (·, dropLazy rest)
  | '\x7b' => s.counted? rest
  | '.' => if s.flags.unicode then leaf (one (dotSet s.flags)) rest else none
  | '^' =>
    leaf (look (if !s.flags.multiLine then .start
      else if s.flags.crlf then .lineStartCrlf else .lineStart)) rest
  | '$' =>
    leaf (look (if !s.flags.multiLine then .stop
      else if s.flags.crlf then .lineStopCrlf else .lineStop)) rest
  | '\\' => do
    let (atom, rest) ← escape? s.flags rest
    leaf (← atomPattern? s.flags atom) rest
  | c => do leaf (← atomPattern? s.flags (.literal c false)) rest

/-- Reads text to its end; each round takes at least one character, so `limit` suffices. -/
def State.run? : Nat → State → List Char → Option State
  | 0, _, _ => none
  | limit + 1, s, cs =>
    match s.flags.skip cs with
    | [] => some s
    | c :: rest =>
      match s.step? c rest with
      | some (s, rest) => run? limit s rest
      | none => none

/-- Reads the text of a pattern that starts under the given flags. -/
def parseUnder (flags : Flags) (text : String) : Except PatternError Pattern :=
  let cs := text.toList
  match (State.initial flags).run? (cs.length + 1) cs with
  | none => .error .malformed
  | some s =>
    if !s.outer.isEmpty then .error .malformed
    else
      let item := s.current.toItem
      if 250 < item.height then .error .malformed
      else if 10 * pow2 20 < item.pattern.weight then .error .tooLarge
      else .ok item.pattern

def parse (text : String) : Except PatternError Pattern := parseUnder .initial text

end Pattern

end TrackerTraffic
