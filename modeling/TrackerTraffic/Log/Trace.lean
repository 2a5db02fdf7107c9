import TrackerTraffic.Catalog.Shared
import TrackerTraffic.Detection.Processing
import TrackerTraffic.Log.Record

/-!
# What is logged

The events of a decoding run, of an extraction, of processing a request and of
operations on the shared catalog, in the order in which they happen.
-/

namespace TrackerTraffic

/-! ### Decoding -/

/-- The events of one step and, unless the run ends with it, the tree behind it. -/
def Step.trace (step : Step) (index : Nat) (state : Json) : List Event × Option Json :=
  match step.find state with
  | .skipped reason => ([.stepSkipped index step.function.name reason], some state)
  | .failed e => ([.stepFailed index step.function.name step.input.path.source e], none)
  | .notAnArray _ => ([], none)
  | .value result =>
    match step.output.assign state result with
    | (after, .written) =>
      ([.stepApplied index step.function.name step.output.source], some after)
    | (_, .conflict) => ([], none)

/-- The events of steps, the first of which is the `index`th. -/
def Step.traceAll : List Step → Nat → Json → List Event
  | [], _, _ => []
  | step :: rest, index, state =>
    match step.trace index state with
    | (events, some after) => events ++ traceAll rest (index + 1) after
    | (events, none) => events

def Adapter.traceExtract (a : Adapter) (r : Request) : List Event :=
  Step.traceAll a.steps 0 r.initialState ++
    match a.extract r with
    | .ok found =>
      (found.map fun m => .pathMatched m.property m.context m.path) ++
        [.extractComplete found.length]
    | .error _ => []

/-! ### Processing -/

def Request.trace (r : Request) (adapters : List Adapter) (known : Option Indicators)
    (context : LogContext) : List LogRecord :=
  match Adapter.handling? adapters r with
  | some a =>
    let inner := context.withAdapter a.id
    ⟨.request context, .adapterMatched a.id r.endpointUrl⟩ ::
      ((a.traceExtract r).map (⟨.request inner, ·⟩)) ++
      match a.extract r with
      | .ok found => [⟨.request inner, .requestDecoded found.length⟩]
      | .error _ => []
  | none =>
    [⟨.request context, .adapterNone r.endpointUrl adapters.length⟩,
      ⟨.request context,
        match r.fallback known with
        | some found => .requestIndicators r.endpointUrl found.length
        | none => .requestUnmatched r.endpointUrl⟩]

/-- The events of processing the request at a position of a batch. -/
def Request.traceAt (batchId : String) (adapters : List Adapter) (known : Option Indicators)
    (position : Nat) (r : Request) : List LogRecord :=
  let context : LogContext := { requestId := batchId ++ "/" ++ toString position }
  r.trace adapters known context ++
    match r.process adapters known with
    | .ok _ => []
    | .error e => [⟨.request context, .requestFailed r.endpointUrl e⟩]

def BatchResult.completion (b : BatchResult) : LogRecord :=
  ⟨.batch b.batchId, .batchComplete b.received b.matched b.unmatched b.failed⟩

/-! ### The shared catalog -/

/-- The events of an operation that led to a catalog with an answer. -/
def Catalog.traceStep (after : Catalog) (outcome : Outcome) : List LogRecord :=
  match outcome with
  | .loaded added =>
    [⟨.shared, .catalogLoaded added after.adapters.length after.trackers.length⟩]
  | .refused _ => []
  | .cleared => [⟨.shared, .catalogCleared⟩]

end TrackerTraffic
