import TrackerTraffic.Path.Parser

/-!
# Reading paths at positions

The grammar of read paths over a text that stays as it is and a position in it.  It is a fault to
cut a piece that is not all in the text.  A scan keeps a log: where its position moves, which rules
of the grammar are entered while which others are running, and which loops go on.

Nothing about the text or the position makes a scan end.  Its loops and rules count down from a
bound, and a scan that would go beyond it has no outcome.
-/

namespace TrackerTraffic.Path

namespace Scan

/-! ### Scans and their logs -/

/-- The rules of the grammar that can be entered again before they are left. -/
inductive Rule where
  | disjunction
  | conjunction
  | unary
  | operand
deriving DecidableEq

/-- The loops of the grammar. -/
inductive Loop where
  | segments
  | disjunction
  | conjunction
  | accessors
  | arguments
deriving DecidableEq

/-- A rule and the position at which it was entered. -/
structure Call where
  rule : Rule
  position : Nat
deriving DecidableEq

/-- What happens in a scan: the position moves, a rule is entered while the calls before it are
running, or a loop goes on behind a round that led from one position to another one. -/
inductive Event where
  | moved (position : Nat)
  | entered (call : Call) (running : List Call)
  | repeated (loop : Loop) (start stop : Nat)
deriving DecidableEq

/-- The position at which the event took place. -/
def Event.position : Event → Nat
  | .moved position => position
  | .entered call _ => call.position
  | .repeated _ _ stop => stop

/-- The position in the text, and what has happened, the latest first. -/
structure State where
  position : Nat
  log : List Event

def State.record (s : State) (event : Event) : State := ⟨s.position, event :: s.log⟩

/-- Why a scan ends without a value. -/
inductive Failure where
  | refused (reason : String)
  | outOfText

/-- The text, and a bound to how often a loop goes on and how deep the rules nest. -/
structure Context where
  text : List Char
  bound : Nat

end Scan

/-- A scan of a text from a state on. -/
abbrev Scan (α : Type) := ReaderT Scan.Context (ExceptT Scan.Failure (StateT Scan.State Option)) α

namespace Scan

/-- What a scan comes to, if it ends within the bound. -/
def outcome {α : Type} (scan : Scan α) (context : Context) (s : State) :
    Option (Except Failure α × State) :=
  ((scan.run context).run).run s

/-- The scan goes beyond the bound. -/
def beyond {α : Type} : Scan α := fun _ _ => none

def bound : Scan Nat := do
  return (← read).bound

/-! ### Moving and looking -/

def position : Scan Nat := do
  return (← get).position

def peekAt (offset : Nat) : Scan (Option Char) := do
  return (← read).text[(← get).position + offset]?

def peek : Scan (Option Char) := peekAt 0

def advance (count : Nat) : Scan Unit :=
  modify fun s => ⟨s.position + count, .moved (s.position + count) :: s.log⟩

def refuse {α : Type} (reason : String) : Scan α := throw (.refused reason)

/-- The text between two positions. -/
def piece (start stop : Nat) : Scan (List Char) := do
  let text := (← read).text
  if start ≤ stop ∧ stop ≤ text.length then return (text.drop start).take (stop - start)
  else throw .outOfText

/-- Enters a rule, while calls are running; from then on it is running, too. -/
def enter (rule : Rule) (running : List Call) : Scan (List Call) := do
  let call : Call := ⟨rule, ← position⟩
  modify (·.record (.entered call running))
  return call :: running

/-- Goes on with a loop whose round began at a position. -/
def repeated (loop : Loop) (start : Nat) : Scan Unit :=
  modify fun s => s.record (.repeated loop start s.position)

def eat (c : Char) : Scan Bool := do
  if (← peek) = some c then
    advance 1
    return true
  else return false

def eatWord (word : List Char) : Scan Bool := do
  let start ← position
  if start + word.length ≤ (← read).text.length then
    if (← piece start (start + word.length)) = word then
      advance word.length
      return true
    else return false
  else return false

def demand (c : Char) : Scan Unit := do
  if ← eat c then return ()
  else refuse s!"expected `{c}`"

def skipRun (p : Char → Bool) : Nat → Scan Unit
  | 0 => beyond
  | n + 1 => do
    match ← peek with
    | some c =>
      if p c then
        advance 1
        skipRun p n
      else return ()
    | none => return ()

def skipWhile (p : Char → Bool) : Scan Unit := do
  skipRun p (← bound)

def skipBlanks : Scan Unit := skipWhile Text.isBlank

/-- The run of characters with a property that starts at the position. -/
def run (p : Char → Bool) : Scan (List Char) := do
  let start ← position
  skipWhile p
  piece start (← position)

/-! ### Names, numbers and strings -/

def name : Scan String := do
  let text ← run isNameChar
  if text = [] then refuse "expected property name"
  else return String.ofList text

/-- A sign, if there is one, and the run of characters with a property behind it. -/
def signedRun (p : Char → Bool) : Scan (List Char) := do
  let start ← position
  let _ ← eat '-'
  skipWhile p
  piece start (← position)

def integer : Scan Int := do
  match Text.signed? (← signedRun Char.isDigit) with
  | some n => return n
  | none => refuse "invalid index"

def stringTail (quote : Char) : Nat → Scan (List Char)
  | 0 => beyond
  | n + 1 => do
    match ← peek with
    | none => refuse "unterminated string"
    | some c =>
      advance 1
      if c = quote then return []
      else if c = '\\' then
        match ← peek with
        | none => refuse "unterminated escape"
        | some e =>
          advance 1
          return unescape e :: (← stringTail quote n)
      else return c :: (← stringTail quote n)

def string : Scan String := do
  match ← peek with
  | none => refuse "expected string"
  | some quote =>
    advance 1
    return String.ofList (← stringTail quote (← bound))

def number : Scan Json := do
  let text ← signedRun isNumberChar
  match numberValue? text with
  | some v => return v
  | none => refuse s!"invalid number `{String.ofList text}`"

/-! ### Pattern literals -/

def patternText (inClass : Bool) : Nat → Scan (List Char)
  | 0 => beyond
  | n + 1 => do
    match ← peek with
    | none => refuse "unterminated regex"
    | some c =>
      advance 1
      if c = '\\' then
        match ← peek with
        | none => refuse "unterminated regex"
        | some e =>
          advance 1
          return c :: e :: (← patternText inClass n)
      else if c = '[' then return c :: (← patternText true n)
      else if c = ']' then return c :: (← patternText false n)
      else if c = '/' && !inClass then return []
      else return c :: (← patternText inClass n)

def patternFlags : Nat → Scan (List Char)
  | 0 => beyond
  | n + 1 => do
    match ← peek with
    | none => return []
    | some c =>
      if c.isAlpha then
        advance 1
        if ['i', 'm', 's'].contains c then return c :: (← patternFlags n)
        else if ['g', 'y', 'u'].contains c then patternFlags n
        else refuse s!"unsupported regex flag `{c}`"
      else return []

def pattern : Scan Pattern := do
  demand '/'
  let text ← patternText false (← bound)
  let flags ← patternFlags (← bound)
  let full := if flags.isEmpty then text else "(?".toList ++ flags ++ ')' :: text
  match Pattern.parse (String.ofList full) with
  | .ok p => return p
  | .error _ => refuse "invalid regex: ..."

/-! ### Operands -/

def base : Scan Base := do
  match ← peek with
  | none => refuse "expected operand"
  | some c =>
    if c = '@' then
      advance 1
      if ← eatWord keyName then return .key
      else return .current
    else if c = '\'' || c = '"' then return .literal (.string (← string))
    else if c = '/' then return .pattern (← pattern)
    else if c = '-' || c.isDigit then return .literal (← number)
    else if Text.isAlphabetic c then
      let name := String.ofList (← run isIdentChar)
      match identBase? name with
      | some base => return base
      | none => refuse s!"unknown identifier `{name}`"
    else refuse "expected operand"

def accessor : Scan Accessor := do
  match ← peek with
  | none => return .index (← integer)
  | some c =>
    if c = '\'' || c = '"' then return .member (← string)
    else return .index (← integer)

def bracketAccessor : Scan Accessor := do
  skipBlanks
  let accessor ← accessor
  skipBlanks
  demand ']'
  return accessor

/-- A point, the name of a member or a method, and blanks. -/
def memberName : Scan String := do
  advance 1
  let name ← run isIdentChar
  if name = [] then refuse "expected member name"
  else
    skipBlanks
    return String.ofList name

mutual
def operand (running : List Call) : Nat → Scan Operand
  | 0 => beyond
  | n + 1 => do
    let running ← enter .operand running
    skipBlanks
    let base ← base
    return .mk base (← accessors running n)

def accessors (running : List Call) : Nat → Scan (List Accessor)
  | 0 => beyond
  | n + 1 => do
    let start ← position
    if (← peek) = some '.' then
      let name ← memberName
      if (← peek) = some '(' then
        match Method.ofName? name with
        | none => refuse s!"unsupported method `{name}`"
        | some method =>
          let arguments ← arguments running n
          repeated .accessors start
          return .call method arguments :: (← accessors running n)
      else
        repeated .accessors start
        return .member name :: (← accessors running n)
    else if (← peek) = some '[' then
      advance 1
      let accessor ← bracketAccessor
      repeated .accessors start
      return accessor :: (← accessors running n)
    else return []

def arguments (running : List Call) : Nat → Scan (List Operand)
  | 0 => beyond
  | n + 1 => do
    demand '('
    skipBlanks
    if ← eat ')' then return []
    else argumentList running n

def argumentList (running : List Call) : Nat → Scan (List Operand)
  | 0 => beyond
  | n + 1 => do
    let start ← position
    let first ← operand running n
    skipBlanks
    if ← eat ')' then return [first]
    else
      demand ','
      repeated .arguments start
      return first :: (← argumentList running n)
end

/-! ### Conditions -/

/-- The first of the signs that stands at the position. -/
def sign : List Comparison → Scan (Option Comparison)
  | [] => return none
  | comparison :: others => do
    if ← eatWord comparison.sign.toList then return some comparison
    else sign others

/-- The signs of comparisons, none in front of a longer one that starts with it. -/
def signs : List Comparison := [.strictEq, .strictNe, .looseEq, .looseNe, .le, .ge, .lt, .gt]

def comparison (running : List Call) : Scan Filter := do
  let left ← operand running (← bound)
  skipBlanks
  match ← sign signs with
  | none => return .truthy left
  | some comparison => return .compare left comparison (← operand running (← bound))

mutual
def disjunction (running : List Call) : Nat → Scan Filter
  | 0 => beyond
  | n + 1 => do
    let running ← enter .disjunction running
    let first ← conjunction running n
    disjunctionTail running first n

def disjunctionTail (running : List Call) (left : Filter) : Nat → Scan Filter
  | 0 => beyond
  | n + 1 => do
    let start ← position
    skipBlanks
    if ← eatWord ['|', '|'] then
      let right ← conjunction running n
      repeated .disjunction start
      disjunctionTail running (.or left right) n
    else return left

def conjunction (running : List Call) : Nat → Scan Filter
  | 0 => beyond
  | n + 1 => do
    let running ← enter .conjunction running
    let first ← unary running n
    conjunctionTail running first n

def conjunctionTail (running : List Call) (left : Filter) : Nat → Scan Filter
  | 0 => beyond
  | n + 1 => do
    let start ← position
    skipBlanks
    if ← eatWord ['&', '&'] then
      let right ← unary running n
      repeated .conjunction start
      conjunctionTail running (.and left right) n
    else return left

def unary (running : List Call) : Nat → Scan Filter
  | 0 => beyond
  | n + 1 => do
    let running ← enter .unary running
    skipBlanks
    if (← peek) = some '!' ∧ (← peekAt 1) ≠ some '=' then
      advance 1
      return .not (← unary running n)
    else if ← eat '(' then
      let condition ← disjunction running n
      skipBlanks
      demand ')'
      return condition
    else comparison running
end

/-! ### Segments -/

def bracketContent : Scan Segment := do
  match ← peek with
  | none => refuse "unsupported bracket expression"
  | some c =>
    if c = '*' then
      advance 1
      return .wildcard
    else if c = '?' then
      advance 1
      skipBlanks
      demand '('
      let condition ← disjunction [] (← bound)
      skipBlanks
      demand ')'
      return .filter condition
    else if c = '\'' || c = '"' then return .child (← string)
    else if c = '-' || c.isDigit then return .index (← integer)
    else refuse "unsupported bracket expression"

def bracket : Scan Segment := do
  demand '['
  skipBlanks
  let segment ← bracketContent
  skipBlanks
  demand ']'
  return segment

/-- What follows the two points of a descent. -/
def descent : Scan Segment := do
  match ← peek with
  | some '*' =>
    advance 1
    return .descendant .wildcard
  | some '[' => return .descendant (← bracket)
  | _ => return .descendant (.child (← name))

def segment : Scan Segment := do
  match ← peek with
  | some '.' =>
    if (← peekAt 1) = some '.' then
      advance 2
      descent
    else
      advance 1
      if ← eat '*' then return .wildcard
      else return .child (← name)
  | some '[' => bracket
  | _ => refuse "expected `.` or `[`"

def segments : Nat → Scan (List Segment)
  | 0 => beyond
  | n + 1 => do
    let start ← position
    match ← peek with
    | none => return []
    | some _ =>
      let segment ← segment
      repeated .segments start
      return segment :: (← segments n)

def path : Scan (List Segment) := do
  if ← eat '$' then segments (← bound)
  else
    match ← peek with
    | none => segments (← bound)
    | some c =>
      if c = '.' || c = '[' then segments (← bound)
      else
        let name ← name
        return .child name :: (← segments (← bound))

end Scan

/-- The whole scan of a path, from the start of its text. -/
def scan (bound : Nat) (source : String) :
    Option (Except Scan.Failure (List Segment) × Scan.State) :=
  Scan.path.outcome ⟨source.toList, bound⟩ ⟨0, []⟩

end TrackerTraffic.Path
