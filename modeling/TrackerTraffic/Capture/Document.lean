import TrackerTraffic.Capture.Basic
import TrackerTraffic.Json.Draft
import TrackerTraffic.Shape.Record

/-!
# Captures as documents

A capture is read while its text is read: what has the wrong shape is reported unless
the grammar has broken off before that place.  Members that a record does not have are
read past, whatever they hold.
-/

namespace TrackerTraffic

namespace Json.Draft

mutual
/-- The grammar does not break off inside the value. -/
def isWhole : Draft → Bool
  | broken => false
  | array items finished => finished && areWhole items
  | object members finished => finished && membersAreWhole members
  | _ => true

/-- The grammar does not break off inside the items. -/
def areWhole : List Draft → Bool
  | [] => true
  | d :: rest => isWhole d && areWhole rest

/-- The grammar does not break off inside the members. -/
def membersAreWhole : List (Option String × Draft) → Bool
  | [] => true
  | (_, d) :: rest => isWhole d && membersAreWhole rest
end

/-- The value as a message names it, `none` if it cannot be read so far. -/
def described? : Draft → Option String
  | broken => none
  | null => some Json.null.described
  | bool b => some (Json.bool b).described
  | number n => n.map Number.described
  | string s => s.map fun s => (Json.string s).described
  | array _ _ => some (Json.array []).described
  | object _ _ => some (Json.object []).described

end Json.Draft

namespace Capture

open Json (Draft)

/-- Reads a value of a document into another type. -/
abbrev DraftReader (α : Type) := Draft → Except CaptureError α

/-! ### Readers -/

/-- The error for a value that is not what is expected. -/
def mismatch (expected : String) (d : Draft) : CaptureError :=
  match d.described? with
  | some found => .wrongShape (.wrongType found expected)
  | none => .syntaxError

def readString : DraftReader String
  | .string (some s) => .ok s
  | d => .error (mismatch "a string" d)

/-- Nothing for `null`. -/
def readOptional {α : Type} (read : DraftReader α) : DraftReader (Option α)
  | .null => .ok none
  | d => (read d).map some

/-- A list, whose items are read in order. -/
def readList {α : Type} (read : DraftReader α) : DraftReader (List α)
  | .array items finished => do
    let values ← items.mapM read
    if finished then .ok values else .error .syntaxError
  | d => .error (mismatch "a sequence" d)

def enterMember {ρ : Type} (fields : List (Field Draft CaptureError ρ)) (filled : Filled ρ)
    (entry : Option String × Draft) : Except CaptureError (Filled ρ) :=
  match entry.1 with
  | none => .error .syntaxError
  | some name =>
    match Field.named? fields name with
    | some field => filled.enter .wrongShape field entry.2
    | none => if entry.2.isWhole then .ok filled else .error .syntaxError

def readRecord {ρ : Type} (name : String) (fields : List (Field Draft CaptureError ρ))
    (blank : ρ) : DraftReader ρ
  | .object members finished => do
    let filled ← members.foldlM (enterMember fields) (.blank blank)
    if finished then filled.close fields .wrongShape else .error .syntaxError
  | .array items finished => do
    let short (index : Nat) : CaptureError :=
      .wrongShape (.wrongLength index s!"struct {name} with {elements fields.length}")
    let (record, rest) ←
      enterInOrder short blank 0 fields (items ++ if finished then [] else [.broken])
    if rest.isEmpty then .ok record else .error .syntaxError
  | d => .error (mismatch s!"struct {name}" d)

/-! ### Records -/

def readNameValue : DraftReader NameValue :=
  readRecord "NameValue"
    [.must "name" readString fun name pair => { pair with name },
      .must "value" readString fun value pair => { pair with value }]
    ⟨"", ""⟩

def readPostData : DraftReader PostData :=
  readRecord "HarPostData"
    [.may "text" (readOptional readString) fun text body => { body with text },
      .may "encoding" (readOptional readString) fun encoding body => { body with encoding }]
    ⟨none, none⟩

/-- A request into which nothing has been entered. -/
def blankRequest : CapturedRequest := ⟨"", "", [], [], none⟩

def readRequest : DraftReader CapturedRequest :=
  readRecord "HarRequest"
    [.must "method" readString fun method r => { r with method },
      .must "url" readString fun url r => { r with url },
      .may "headers" (readList readNameValue) fun headers r => { r with headers },
      .may "cookies" (readList readNameValue) fun cookies r => { r with cookies },
      .may "postData" (readOptional readPostData) fun postData r => { r with postData }]
    blankRequest

def readEntry : DraftReader Entry :=
  readRecord "HarEntry"
    [.may "startedDateTime" (readOptional readString) fun startedDateTime e =>
        { e with startedDateTime },
      .must "request" readRequest fun request e => { e with request }]
    ⟨none, blankRequest⟩

def readLog : DraftReader (List Entry) :=
  readRecord "HarLog" [.may "entries" (readList readEntry) fun entries _ => entries] []

def readCapture : DraftReader (List Entry) :=
  readRecord "Har" [.must "log" readLog fun entries _ => entries] []

def ofText (text : String) : Except CaptureError (List Entry) := do
  let (draft, whole) := Draft.read text
  let entries ← readCapture draft
  if whole then .ok entries else .error .syntaxError

def requestsOfText (text : String) : Except CaptureError (List Request) := do
  requests (← ofText text)

end Capture

end TrackerTraffic
