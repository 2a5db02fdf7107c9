import TrackerTraffic.Number.Literal
import TrackerTraffic.Path.Error
import TrackerTraffic.Path.Syntax
import TrackerTraffic.Pattern.Parser
import TrackerTraffic.Text.Blank
import TrackerTraffic.Text.Integer
import TrackerTraffic.Text.Letter

/-!
# Reading paths

The grammar of read paths, by recursive descent:

    path      := ["$"] [name] segment*
    segment   := "." name | ".*" | ".." (name | "*" | bracket) | bracket
    bracket   := "[" ( "*" | int | quoted | "?(" filter ")" ) "]"
    filter    := and ("||" and)*
    and       := unary ("&&" unary)*
    unary     := "!" unary | "(" filter ")" | operand [comparison operand]
    operand   := base accessor*
    base      := "@" | "@property" | quoted | number | /pattern/flags
               | true | false | null | undefined
    accessor  := "." ident | "[" (quoted | int) "]" | "." method "(" operands ")"

Every reader answers with what it read and the text behind it.  The text behind
is shorter in its type (`Taken`), so the readers end, and an error counts the
characters it has left, so it lies inside the text.
-/

namespace TrackerTraffic.Path

/-! ### Readers -/

/-- Where reading failed, by the number of characters that are left, and why. -/
structure Stuck where
  left : Nat
  reason : String
deriving DecidableEq

/-- What was read and the text behind it, which has less than `limit` characters. -/
structure Taken (α : Type) (limit : Nat) where
  value : α
  rest : List Char
  shorter : rest.length < limit

/-- The result of reading at the start of a text. -/
abbrev Reading (α : Type) (limit : Nat) := Except Stuck (Taken α limit)

def stuck {α : Type} (cs : List Char) (reason : String) : Except Stuck α :=
  .error ⟨cs.length, reason⟩

def skipBlank (cs : List Char) : List Char := cs.dropWhile Text.isBlank

theorem skipBlank_length (cs : List Char) : (skipBlank cs).length ≤ cs.length :=
  (List.dropWhile_sublist _).length_le

def expect (c : Char) (cs : List Char) : Reading Unit cs.length :=
  match cs with
  | d :: rest => if d = c then .ok ⟨(), rest, by simp⟩ else stuck (d :: rest) s!"expected `{c}`"
  | [] => stuck [] s!"expected `{c}`"

def expectNext (c : Char) (cs : List Char) : Reading Unit cs.length := do
  let ⟨_, rest, h⟩ ← expect c (skipBlank cs)
  return ⟨(), rest, by have := skipBlank_length cs; omega⟩

/-! ### Names, numbers and strings -/

/-- The longest run of characters with a property, and what follows it. -/
def takeRun (p : Char → Bool) (cs : List Char) : List Char × List Char :=
  (cs.takeWhile p, cs.dropWhile p)

theorem takeRun_length {p : Char → Bool} {cs : List Char} (h : (takeRun p cs).1 ≠ []) :
    (takeRun p cs).2.length < cs.length := by
  have hsum : (takeRun p cs).1 ++ (takeRun p cs).2 = cs := List.takeWhile_append_dropWhile
  have hlen := congrArg List.length hsum
  have := List.length_pos_iff.2 h
  rw [List.length_append] at hlen
  omega

/-- The character may stand in the name of a segment. -/
def isNameChar (c : Char) : Bool := c != '.' && c != '['

def readName (cs : List Char) : Reading String cs.length :=
  if h : (takeRun isNameChar cs).1 = [] then stuck cs "expected property name"
  else .ok ⟨String.ofList (takeRun isNameChar cs).1, (takeRun isNameChar cs).2, takeRun_length h⟩

def isIdentChar (c : Char) : Bool := Text.isAlphanumeric c || c == '_' || c == '$'

/-- A sign, if there is one, and the digits behind it. -/
def splitInteger (cs : List Char) : List Char × List Char :=
  match cs with
  | '-' :: rest => ('-' :: (takeRun Char.isDigit rest).1, (takeRun Char.isDigit rest).2)
  | cs => takeRun Char.isDigit cs

theorem splitInteger_append (cs : List Char) :
    (splitInteger cs).1 ++ (splitInteger cs).2 = cs := by
  unfold splitInteger takeRun
  split <;> simp

/-- Reads an integer of 64 bits. -/
def readIndex (cs : List Char) : Reading Int cs.length :=
  match h : Text.signed? (splitInteger cs).1 with
  | some n =>
    .ok ⟨n, (splitInteger cs).2, by
      have hlen := congrArg List.length (splitInteger_append cs)
      rw [List.length_append] at hlen
      have : (splitInteger cs).1 ≠ [] := by
        intro hnil
        rw [hnil] at h
        simp [Text.signed?, Text.digits?] at h
      have := List.length_pos_iff.2 this
      omega⟩
  | none => stuck (splitInteger cs).2 "invalid index"

/-- The character a backslash and a letter stand for. -/
def unescape (c : Char) : Char :=
  match c with
  | 'n' => '\n'
  | 't' => '\t'
  | 'r' => '\r'
  | c => c

/-- Reads the rest of a string up to its closing quote. -/
def readStringTail (quote : Char) (cs : List Char) : Reading (List Char) cs.length :=
  match cs with
  | [] => stuck [] "unterminated string"
  | c :: rest =>
    if c = quote then .ok ⟨[], rest, by simp⟩
    else if c = '\\' then
      match rest with
      | [] => stuck [] "unterminated escape"
      | e :: rest => do
        let ⟨text, after, h⟩ ← readStringTail quote rest
        return ⟨unescape e :: text, after, by simp only [List.length_cons]; omega⟩
    else do
      let ⟨text, after, h⟩ ← readStringTail quote rest
      return ⟨c :: text, after, by simp only [List.length_cons]; omega⟩

def readString (quote : Char) (cs : List Char) : Reading String cs.length := do
  let ⟨text, rest, h⟩ ← readStringTail quote cs
  return ⟨String.ofList text, rest, h⟩

/-- The character may stand in a number behind its sign. -/
def isNumberChar (c : Char) : Bool := c.isDigit || c == '.' || c == 'e' || c == 'E'

/-- The value of a number's text: an integer of 64 bits, or else a finite number. -/
def numberValue? (text : List Char) : Option Json :=
  match Text.signed? text with
  | some n => some (.number (.integer n))
  | none =>
    match Binary64.parse? text with
    | some x => if x.isFinite then some (.number (.float x)) else none
    | none => none

/-- Reads a number, whose first character has been recognized. -/
def readNumber (first : Char) (rest : List Char) : Reading Json (rest.length + 1) :=
  let text := first :: (takeRun isNumberChar rest).1
  match numberValue? text with
  | some v =>
    .ok ⟨v, (takeRun isNumberChar rest).2, by
      have := (List.dropWhile_sublist isNumberChar (l := rest)).length_le
      simp only [takeRun]
      omega⟩
  | none => stuck (takeRun isNumberChar rest).2 s!"invalid number `{String.ofList text}`"

/-! ### Pattern literals -/

/-- Reads the text of a pattern literal up to its closing slash, which stands in no class. -/
def readPatternText (inClass : Bool) (cs : List Char) : Reading (List Char) cs.length :=
  match cs with
  | [] => stuck [] "unterminated regex"
  | c :: rest =>
    if c = '/' && !inClass then .ok ⟨[], rest, by simp⟩
    else if c = '\\' then
      match rest with
      | [] => stuck [] "unterminated regex"
      | e :: rest => do
        let ⟨text, after, h⟩ ← readPatternText inClass rest
        return ⟨c :: e :: text, after, by simp only [List.length_cons]; omega⟩
    else do
      let ⟨text, after, h⟩ ←
        readPatternText (if c = '[' then true else if c = ']' then false else inClass) rest
      return ⟨c :: text, after, by simp only [List.length_cons]; omega⟩

/-- Reads the flags behind a pattern literal and keeps those that matter to a match. -/
def readPatternFlags (cs : List Char) : Reading (List Char) (cs.length + 1) :=
  match cs with
  | [] => .ok ⟨[], [], by simp⟩
  | c :: rest =>
    if !c.isAlpha then .ok ⟨[], c :: rest, by simp⟩
    else if ['i', 'm', 's'].contains c then do
      let ⟨flags, after, h⟩ ← readPatternFlags rest
      return ⟨c :: flags, after, by simp only [List.length_cons]; omega⟩
    else if ['g', 'y', 'u'].contains c then do
      let ⟨flags, after, h⟩ ← readPatternFlags rest
      return ⟨flags, after, by simp only [List.length_cons]; omega⟩
    else stuck rest s!"unsupported regex flag `{c}`"

/-- Reads a pattern literal behind its opening slash. -/
def readPattern (cs : List Char) : Reading Pattern cs.length := do
  let ⟨text, rest, h⟩ ← readPatternText false cs
  let ⟨flags, after, h'⟩ ← readPatternFlags rest
  let full := if flags.isEmpty then text else "(?".toList ++ flags ++ ')' :: text
  match Pattern.parse (String.ofList full) with
  | .ok p => return ⟨p, after, by omega⟩
  | .error _ => stuck after "invalid regex: ..."

/-! ### Operands -/

def identBase? (name : String) : Option Base :=
  match name with
  | "true" => some (.literal (.bool true))
  | "false" => some (.literal (.bool false))
  | "null" => some (.literal .null)
  | "undefined" => some .undefined
  | _ => none

/-- The letters behind `@` that name the key. -/
def keyName : List Char := "property".toList

def readBase (cs : List Char) : Reading Base cs.length :=
  match cs with
  | [] => stuck [] "expected operand"
  | c :: rest =>
    if c = '@' then
      if keyName.isPrefixOf rest then
        .ok ⟨.key, rest.drop keyName.length, by
          simp only [List.length_drop, List.length_cons]; omega⟩
      else .ok ⟨.current, rest, by simp⟩
    else if c = '\'' || c = '"' then do
      let ⟨text, after, h⟩ ← readString c rest
      return ⟨.literal (.string text), after, by simp only [List.length_cons]; omega⟩
    else if c = '/' then do
      let ⟨p, after, h⟩ ← readPattern rest
      return ⟨.pattern p, after, by simp only [List.length_cons]; omega⟩
    else if c = '-' || c.isDigit then do
      let ⟨v, after, h⟩ ← readNumber c rest
      return ⟨.literal v, after, by simpa using h⟩
    else if Text.isAlphabetic c then
      let name := String.ofList (c :: (takeRun isIdentChar rest).1)
      match identBase? name with
      | some base =>
        .ok ⟨base, (takeRun isIdentChar rest).2, by
          have := (List.dropWhile_sublist isIdentChar (l := rest)).length_le
          simp only [takeRun, List.length_cons]
          omega⟩
      | none => stuck (takeRun isIdentChar rest).2 s!"unknown identifier `{name}`"
    else stuck (c :: rest) "expected operand"

def readAccessor (cs : List Char) : Reading Accessor cs.length :=
  match cs with
  | [] => do
    let ⟨n, rest, h⟩ ← readIndex []
    return ⟨.index n, rest, h⟩
  | c :: inner =>
    if c = '\'' || c = '"' then do
      let ⟨text, rest, h⟩ ← readString c inner
      return ⟨.member text, rest, by simp only [List.length_cons]; omega⟩
    else do
      let ⟨n, rest, h⟩ ← readIndex (c :: inner)
      return ⟨.index n, rest, h⟩

/-- Reads a member's name or an index behind its opening bracket, and the closing one. -/
def readBracketAccessor (cs : List Char) : Reading Accessor cs.length := do
  let ⟨accessor, rest, h⟩ ← readAccessor (skipBlank cs)
  let ⟨_, after, h'⟩ ← expectNext ']' rest
  return ⟨accessor, after, by have := skipBlank_length cs; omega⟩

mutual
def readOperand (cs : List Char) : Reading Operand cs.length := do
  let ⟨base, rest, h⟩ ← readBase (skipBlank cs)
  have := skipBlank_length cs
  let ⟨accessors, after, h'⟩ ← readAccessors rest
  return ⟨.mk base accessors, after, by omega⟩
termination_by 4 * cs.length

/-- Reads accessors as far as there are any. -/
def readAccessors (cs : List Char) : Reading (List Accessor) (cs.length + 1) :=
  match cs with
  | '.' :: rest =>
    let name := (takeRun isIdentChar rest).1
    if hname : name = [] then stuck (takeRun isIdentChar rest).2 "expected member name"
    else
      have hrun := takeRun_length hname
      have hskip := skipBlank_length (takeRun isIdentChar rest).2
      match hs : skipBlank (takeRun isIdentChar rest).2 with
      | '(' :: inner =>
        match Method.ofName? (String.ofList name) with
        | none => stuck ('(' :: inner) s!"unsupported method `{String.ofList name}`"
        | some method => do
          have hinner : inner.length + 1 ≤ (takeRun isIdentChar rest).2.length := by
            rw [hs, List.length_cons] at hskip
            exact hskip
          let ⟨arguments, after, h⟩ ← readArguments inner
          let ⟨others, last, h'⟩ ← readAccessors after
          return ⟨.call method arguments :: others, last, by simp only [List.length_cons]; omega⟩
      | behind => do
        have hbehind : behind.length ≤ (takeRun isIdentChar rest).2.length := by
          rw [← hs]
          exact hskip
        let ⟨others, last, h'⟩ ← readAccessors behind
        return ⟨.member (String.ofList name) :: others, last, by
          simp only [List.length_cons]; omega⟩
  | '[' :: rest => do
    let ⟨accessor, after, h⟩ ← readBracketAccessor rest
    let ⟨others, last, h'⟩ ← readAccessors after
    return ⟨accessor :: others, last, by simp only [List.length_cons]; omega⟩
  | cs => .ok ⟨[], cs, by omega⟩
termination_by 4 * cs.length

/-- Reads the arguments of a call behind its opening parenthesis. -/
def readArguments (cs : List Char) : Reading (List Operand) cs.length :=
  have hskip := skipBlank_length cs
  match hs : skipBlank cs with
  | ')' :: rest => .ok ⟨[], rest, by rw [hs, List.length_cons] at hskip; omega⟩
  | inner => do
    have hinner : inner.length ≤ cs.length := by
      rw [← hs]
      exact hskip
    let ⟨arguments, rest, h⟩ ← readArgumentList inner
    return ⟨arguments, rest, by omega⟩
termination_by 4 * cs.length + 2

/-- Reads at least one argument and the closing parenthesis. -/
def readArgumentList (cs : List Char) : Reading (List Operand) cs.length := do
  let ⟨first, rest, h⟩ ← readOperand cs
  have hskip := skipBlank_length rest
  match hs : skipBlank rest with
  | ')' :: after => return ⟨[first], after, by rw [hs, List.length_cons] at hskip; omega⟩
  | behind => do
    have hbehind : behind.length ≤ rest.length := by
      rw [← hs]
      exact hskip
    let ⟨_, after, h'⟩ ← expect ',' behind
    let ⟨others, last, h''⟩ ← readArgumentList after
    return ⟨first :: others, last, by omega⟩
termination_by 4 * cs.length + 1
end

/-! ### Conditions -/

/-- The sign of a comparison at the start of a text; longer signs first. -/
def takeComparison? (cs : List Char) : Option (Comparison × List Char) :=
  match cs with
  | '=' :: '=' :: '=' :: rest => some (.strictEq, rest)
  | '!' :: '=' :: '=' :: rest => some (.strictNe, rest)
  | '=' :: '=' :: rest => some (.looseEq, rest)
  | '!' :: '=' :: rest => some (.looseNe, rest)
  | '<' :: '=' :: rest => some (.le, rest)
  | '>' :: '=' :: rest => some (.ge, rest)
  | '<' :: rest => some (.lt, rest)
  | '>' :: rest => some (.gt, rest)
  | _ => none

theorem takeComparison?_length {cs rest : List Char} {c : Comparison}
    (h : takeComparison? cs = some (c, rest)) : rest.length < cs.length := by
  unfold takeComparison? at h
  split at h <;> simp only [Option.some.injEq, Prod.mk.injEq, reduceCtorEq] at h <;>
    (rw [← h.2]; simp only [List.length_cons]; omega)

/-- Reads an operand and, behind a comparison sign, another one. -/
def readComparison (cs : List Char) : Reading Filter cs.length := do
  let ⟨left, rest, h⟩ ← readOperand cs
  have hskip := skipBlank_length rest
  match hc : takeComparison? (skipBlank rest) with
  | none => return ⟨.truthy left, skipBlank rest, by omega⟩
  | some (comparison, behind) => do
    have := takeComparison?_length hc
    let ⟨right, after, h'⟩ ← readOperand behind
    return ⟨.compare left comparison right, after, by omega⟩

mutual
/-- Reads conditions joined by `||`. -/
def readOr (cs : List Char) : Reading Filter cs.length := do
  let ⟨first, rest, h⟩ ← readAnd cs
  let ⟨condition, after, h'⟩ ← readOrTail first rest
  return ⟨condition, after, by omega⟩
termination_by 4 * cs.length + 2

/-- Reads further conditions behind `||`. -/
def readOrTail (left : Filter) (cs : List Char) : Reading Filter (cs.length + 1) :=
  have hskip := skipBlank_length cs
  match hs : skipBlank cs with
  | '|' :: '|' :: rest => do
    have hrest : rest.length + 2 ≤ cs.length := by
      simp only [hs, List.length_cons] at hskip
      omega
    let ⟨right, after, h⟩ ← readAnd rest
    let ⟨condition, last, h'⟩ ← readOrTail (.or left right) after
    return ⟨condition, last, by omega⟩
  | rest => .ok ⟨left, rest, by rw [← hs]; omega⟩
termination_by 4 * cs.length

/-- Reads conditions joined by `&&`. -/
def readAnd (cs : List Char) : Reading Filter cs.length := do
  let ⟨first, rest, h⟩ ← readUnary cs
  let ⟨condition, after, h'⟩ ← readAndTail first rest
  return ⟨condition, after, by omega⟩
termination_by 4 * cs.length + 1

/-- Reads further conditions behind `&&`. -/
def readAndTail (left : Filter) (cs : List Char) : Reading Filter (cs.length + 1) :=
  have hskip := skipBlank_length cs
  match hs : skipBlank cs with
  | '&' :: '&' :: rest => do
    have hrest : rest.length + 2 ≤ cs.length := by
      simp only [hs, List.length_cons] at hskip
      omega
    let ⟨right, after, h⟩ ← readUnary rest
    let ⟨condition, last, h'⟩ ← readAndTail (.and left right) after
    return ⟨condition, last, by omega⟩
  | rest => .ok ⟨left, rest, by rw [← hs]; omega⟩
termination_by 4 * cs.length

/-- Reads a negation, a condition in parentheses or a comparison. -/
def readUnary (cs : List Char) : Reading Filter cs.length :=
  have hskip := skipBlank_length cs
  match hs : skipBlank cs with
  | '!' :: rest =>
    have hrest : rest.length + 1 ≤ cs.length := by
      simp only [hs, List.length_cons] at hskip
      omega
    if rest.head? = some '=' then do
      let ⟨condition, after, h⟩ ← readComparison ('!' :: rest)
      return ⟨condition, after, by simp only [List.length_cons] at h; omega⟩
    else do
      let ⟨condition, after, h⟩ ← readUnary rest
      return ⟨.not condition, after, by omega⟩
  | '(' :: rest => do
    have hrest : rest.length + 1 ≤ cs.length := by
      simp only [hs, List.length_cons] at hskip
      omega
    let ⟨condition, behind, h⟩ ← readOr rest
    let ⟨_, after, h'⟩ ← expectNext ')' behind
    return ⟨condition, after, by omega⟩
  | rest => do
    have hrest : rest.length ≤ cs.length := by
      rw [← hs]
      exact hskip
    let ⟨condition, after, h⟩ ← readComparison rest
    return ⟨condition, after, by omega⟩
termination_by 4 * cs.length
end

/-! ### Segments -/

def readBracketContent (cs : List Char) : Reading Segment cs.length :=
  match cs with
  | [] => stuck [] "unsupported bracket expression"
  | c :: rest =>
    if c = '*' then .ok ⟨.wildcard, rest, by simp only [List.length_cons]; omega⟩
    else if c = '?' then do
      let ⟨_, inner, h⟩ ← expectNext '(' rest
      let ⟨condition, behind, h'⟩ ← readOr inner
      let ⟨_, after, h''⟩ ← expectNext ')' behind
      return ⟨.filter condition, after, by simp only [List.length_cons]; omega⟩
    else if c = '\'' || c = '"' then do
      let ⟨name, after, h⟩ ← readString c rest
      return ⟨.child name, after, by simp only [List.length_cons]; omega⟩
    else if c = '-' || c.isDigit then do
      let ⟨n, after, h⟩ ← readIndex (c :: rest)
      return ⟨.index n, after, h⟩
    else stuck (c :: rest) "unsupported bracket expression"

/-- Reads a segment in brackets behind the opening one. -/
def readBracket (cs : List Char) : Reading Segment cs.length := do
  let ⟨segment, rest, h⟩ ← readBracketContent (skipBlank cs)
  let ⟨_, after, h'⟩ ← expectNext ']' rest
  return ⟨segment, after, by have := skipBlank_length cs; omega⟩

/-- Reads what follows the two points of a descent. -/
def readDescent (cs : List Char) : Reading Segment cs.length :=
  match cs with
  | '*' :: rest => .ok ⟨.descendant .wildcard, rest, by simp only [List.length_cons]; omega⟩
  | '[' :: rest => do
    let ⟨segment, after, h⟩ ← readBracket rest
    return ⟨.descendant segment, after, by simp only [List.length_cons]; omega⟩
  | cs => do
    let ⟨name, after, h⟩ ← readName cs
    return ⟨.descendant (.child name), after, h⟩

def readSegment (cs : List Char) : Reading Segment cs.length :=
  match cs with
  | '.' :: '.' :: rest => do
    let ⟨segment, after, h⟩ ← readDescent rest
    return ⟨segment, after, by simp only [List.length_cons]; omega⟩
  | '.' :: '*' :: rest => .ok ⟨.wildcard, rest, by simp only [List.length_cons]; omega⟩
  | '.' :: rest => do
    let ⟨name, after, h⟩ ← readName rest
    return ⟨.child name, after, by simp only [List.length_cons]; omega⟩
  | '[' :: rest => do
    let ⟨segment, after, h⟩ ← readBracket rest
    return ⟨segment, after, by simp only [List.length_cons]; omega⟩
  | cs => stuck cs "expected `.` or `[`"

/-- Reads segments to the end of the text. -/
def readSegments (cs : List Char) : Except Stuck (List Segment) :=
  match cs with
  | [] => .ok []
  | c :: rest => do
    let ⟨segment, after, _⟩ ← readSegment (c :: rest)
    let others ← readSegments after
    return segment :: others
termination_by cs.length
decreasing_by assumption

/-- Reads a whole path: a root sign or a first name, and segments. -/
def readPath (cs : List Char) : Except Stuck (List Segment) :=
  match cs with
  | [] => .ok []
  | '$' :: rest => readSegments rest
  | '.' :: rest => readSegments ('.' :: rest)
  | '[' :: rest => readSegments ('[' :: rest)
  | cs => do
    let ⟨name, rest, _⟩ ← readName cs
    let others ← readSegments rest
    return .child name :: others

def parse (source : String) : Except PathError Path :=
  let cs := source.toList
  match readPath cs with
  | .ok segments => .ok ⟨source, segments⟩
  | .error e => .error (.malformed source (cs.length - e.left) e.reason)

end TrackerTraffic.Path
