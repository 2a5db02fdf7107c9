import TrackerTraffic.Adapter.Context
import TrackerTraffic.Adapter.Property
import TrackerTraffic.Decoding.Run

/-!
# Log records

A record says what happened and, where it happened for a request, for which request
and by which adapter.
-/

namespace TrackerTraffic

/-- The request and the adapter that a record belongs to. -/
structure LogContext where
  requestId : String
  adapter : Option String := none
deriving DecidableEq

namespace LogContext

/-- The context of the same request handled by an adapter. -/
def withAdapter (c : LogContext) (adapter : String) : LogContext :=
  { c with adapter := some adapter }

def text (c : LogContext) : String :=
  match c.adapter with
  | some adapter => s!"[request={c.requestId}] [adapter={adapter}]"
  | none => s!"[request={c.requestId}]"

end LogContext

/-- An id: what it is for, and eight hexadecimal digits of a random word. -/
def shortId (label : String) (word : UInt32) : String :=
  String.ofList (label.toList ++ '-' :: (List.range 8).map fun place =>
    Text.hexDigit (word.toNat / Nat.pow 16 (7 - place) % 16))

/-- The id is for the given purpose: the label, a dash and eight digits follow each other. -/
def isShortId (label id : String) : Bool :=
  (label.toList ++ ['-']).isPrefixOf id.toList &&
    (let word := id.toList.drop (label.length + 1)
    word.length == 8 && word.all fun c => c.isDigit || ('a' ≤ c && c ≤ 'f'))

/-- How much a record matters. -/
inductive LogLevel where
  | debug
  | info
  | warn
deriving DecidableEq

def LogLevel.name : LogLevel → String
  | debug => "DEBUG"
  | info => "INFO"
  | warn => "WARN"

def SkipReason.word : SkipReason → String
  | .falsyInput => "falsy_input"
  | .falsyOutput => "falsy_output"

/-- What happened. -/
inductive Event where
  | stepApplied (index : Nat) (function output : String)
  | stepSkipped (index : Nat) (function : String) (reason : SkipReason)
  | stepFailed (index : Nat) (function input : String) (cause : StepError)
  | pathMatched (property : Property) (context : Context) (path : String)
  | extractComplete (found : Nat)
  | adapterMatched (adapter endpoint : String)
  | adapterNone (endpoint : String) (candidates : Nat)
  | requestDecoded (found : Nat)
  | requestIndicators (endpoint : String) (found : Nat)
  | requestUnmatched (endpoint : String)
  | requestFailed (endpoint : String) (cause : DecodeError)
  | batchComplete (received matched unmatched failed : Nat)
  | catalogLoaded (added adapters trackers : Nat)
  | catalogCleared

namespace Event

def level : Event → LogLevel
  | stepApplied .. => .debug
  | stepSkipped .. => .debug
  | stepFailed .. => .debug
  | pathMatched .. => .debug
  | extractComplete .. => .debug
  | adapterMatched .. => .debug
  | adapterNone .. => .debug
  | requestDecoded .. => .info
  | requestIndicators .. => .info
  | requestUnmatched .. => .info
  | requestFailed .. => .warn
  | batchComplete .. => .info
  | catalogLoaded .. => .info
  | catalogCleared => .info

def text : Event → String
  | stepApplied index function output =>
    s!"STEP_APPLIED index={index} function={function} output={output}"
  | stepSkipped index function reason =>
    s!"STEP_SKIPPED index={index} function={function} reason={reason.word}"
  | stepFailed index function input cause =>
    s!"STEP_FAILED index={index} function={function} input={input} error={cause.message}"
  | pathMatched property context path =>
    s!"PATH_MATCHED property={property.name} context={context.name} path={path}"
  | extractComplete found => s!"EXTRACT_COMPLETE matches={found}"
  | adapterMatched adapter endpoint => s!"ADAPTER_MATCHED adapter={adapter} endpoint={endpoint}"
  | adapterNone endpoint candidates => s!"ADAPTER_NONE endpoint={endpoint} candidates={candidates}"
  | requestDecoded found => s!"REQUEST_DECODED matches={found}"
  | requestIndicators endpoint found => s!"REQUEST_INDICATORS endpoint={endpoint} matches={found}"
  | requestUnmatched endpoint => s!"REQUEST_UNMATCHED endpoint={endpoint}"
  | requestFailed endpoint cause => s!"REQUEST_FAILED endpoint={endpoint} error={cause.message}"
  | batchComplete received matched unmatched failed =>
    s!"BATCH_COMPLETE received={received} matched={matched} unmatched={unmatched} failed={failed}"
  | catalogLoaded added adapters trackers =>
    s!"CATALOG_LOADED added={added} adapters={adapters} trackers={trackers}"
  | catalogCleared => "CATALOG_CLEARED"

end Event

/-- What a record is about: a request, a batch or neither. -/
inductive LogSubject where
  | request (context : LogContext)
  | batch (id : String)
  | shared

/-- An event and what it is about. -/
structure LogRecord where
  subject : LogSubject
  event : Event

/-- The record's line: level, subject and event. -/
def LogRecord.line (r : LogRecord) : String :=
  let subject := match r.subject with
    | .request context => context.text ++ " "
    | .batch id => s!"[batch={id}] "
    | .shared => ""
  s!"{r.event.level.name} {subject}{r.event.text}"

end TrackerTraffic
