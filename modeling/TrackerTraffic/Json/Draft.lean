import TrackerTraffic.Json.Token

/-!
# Documents as far as they can be read

`Draft.read` builds a tree from the tokens of a text.  Where the grammar breaks
off, the containers that are open at that place are kept as unfinished, so a
reader that walks the tree in document order meets the break exactly where it
stands in the text.  Members keep their order and their repeated names.
-/

namespace TrackerTraffic.Json

/-- A JSON text as a tree; `finished` says that the closing bracket was there. -/
inductive Draft where
  | broken
  | null
  | bool (value : Bool)
  | number (value : Option Number)
  | string (value : Option String)
  | array (items : List Draft) (finished : Bool)
  | object (members : List (Option String × Draft)) (finished : Bool)
deriving Inhabited

namespace Draft

/-- A container that is still open: its parts, newest first, and a name that waits for its value. -/
inductive Frame where
  | array (items : List Draft)
  | object (members : List (Option String × Draft)) (waiting : Option (Option String))

/-- What the grammar allows next. -/
inductive Expect where
  | value
  | valueOrClose
  | nameOrClose
  | name
  | colon
  | separator
deriving DecidableEq

/-- Where reading stands: inside open containers, or behind the whole value. -/
inductive State where
  | inside (frames : List Frame) (expect : Expect)
  | complete (value : Draft)

/-- The tree if the text breaks off here: each open container is unfinished. -/
def abandon (inner : Option Draft) : List Frame → Draft
  | [] => inner.getD broken
  | .array items :: frames =>
    abandon (some (array (inner.toList ++ items).reverse false)) frames
  | .object members (some n) :: frames =>
    abandon (some (object ((n, inner.getD broken) :: members).reverse false)) frames
  | .object members none :: frames =>
    abandon (some (object members.reverse false)) frames

def place (value : Draft) : List Frame → State
  | [] => .complete value
  | .array items :: frames => .inside (.array (value :: items) :: frames) .separator
  | .object members waiting :: frames =>
    .inside (.object ((waiting.getD none, value) :: members) none :: frames) .separator

/-- The value of a token that is a value by itself. -/
def scalar? : Token → Option Draft
  | .null => some null
  | .bool b => some (bool b)
  | .number n => some (number n)
  | .string s => some (string s)
  | _ => none

def startValue? (frames : List Frame) (token : Token) : Option State :=
  match token with
  | .openBracket => some (.inside (.array [] :: frames) .valueOrClose)
  | .openBrace => some (.inside (.object [] none :: frames) .nameOrClose)
  | token => (scalar? token).map (place · frames)

/-- A string token where a member's name is allowed. -/
def startMember? (frames : List Frame) (token : Token) : Option State :=
  match frames, token with
  | .object members _ :: frames, .string n =>
    some (.inside (.object members (some n) :: frames) .colon)
  | _, _ => none

def close? (frames : List Frame) (token : Token) : Option State :=
  match frames, token with
  | .array items :: frames, .closeBracket => some (place (array items.reverse true) frames)
  | .object members _ :: frames, .closeBrace => some (place (object members.reverse true) frames)
  | _, _ => none

/-- A comma between two items or two members. -/
def separate? (frames : List Frame) (token : Token) : Option State :=
  match frames, token with
  | .array _ :: _, .comma => some (.inside frames .value)
  | .object _ _ :: _, .comma => some (.inside frames .name)
  | _, _ => none

/-- The state behind a token, `none` where the grammar does not allow it. -/
def step? (frames : List Frame) (expect : Expect) (token : Token) : Option State :=
  match expect with
  | .value => startValue? frames token
  | .valueOrClose => (close? frames token).or (startValue? frames token)
  | .nameOrClose => (close? frames token).or (startMember? frames token)
  | .name => startMember? frames token
  | .colon =>
    match token with
    | .colon => some (.inside frames .value)
    | _ => none
  | .separator => (close? frames token).or (separate? frames token)

/-- Reads tokens from a state; the flag says that the text is one whole value and nothing else. -/
def build : State → List Token → Draft × Bool
  | .complete value, tokens => (value, tokens.isEmpty)
  | .inside frames _, [] => (abandon none frames, false)
  | .inside frames expect, token :: tokens =>
    match step? frames expect token with
    | some state => build state tokens
    | none => (abandon none frames, false)

/-- The tree of a text and whether the text is one whole value. -/
def read (text : String) : Draft × Bool :=
  build (.inside [] .value) (Token.scan text.toList)

mutual
/-- The value of a tree that is finished throughout and nests at most `depth` containers. -/
def toJson? (depth : Nat) : Draft → Option Json
  | broken => none
  | null => some .null
  | bool b => some (.bool b)
  | number n => n.map .number
  | string s => s.map .string
  | array items finished =>
    match depth with
    | 0 => none
    | depth + 1 => if finished then (itemsToJson? depth items).map .array else none
  | object members finished =>
    match depth with
    | 0 => none
    | depth + 1 =>
      if finished then (membersToJson? depth members).map fun entries => .object (ofEntries entries)
      else none

def itemsToJson? (depth : Nat) : List Draft → Option (List Json)
  | [] => some []
  | d :: rest => do return (← toJson? depth d) :: (← itemsToJson? depth rest)

def membersToJson? (depth : Nat) : List (Option String × Draft) → Option (List (String × Json))
  | [] => some []
  | (n, d) :: rest => do return (← n, ← toJson? depth d) :: (← membersToJson? depth rest)
end

end Draft

/-- The value of a JSON text that nests at most `depth` containers. -/
def readNested? (depth : Nat) (text : String) : Option Json :=
  match Draft.read text with
  | (draft, true) => draft.toJson? depth
  | (_, false) => none

/-- The value of a JSON text; more than 127 nested containers are refused. -/
def read? (text : String) : Option Json := readNested? 127 text

end TrackerTraffic.Json
