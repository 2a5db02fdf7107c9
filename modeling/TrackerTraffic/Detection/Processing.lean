import TrackerTraffic.Detection.Extraction
import TrackerTraffic.Detection.Indicator

/-!
# Processing requests

The first adapter that accepts a request handles it.  Where there is none, known
values are looked for if there are any to look for.
-/

namespace TrackerTraffic

def Adapter.handling? (adapters : List Adapter) (r : Request) : Option Adapter :=
  adapters.find? (·.accepts r)

/-- What is searched for where no adapter handles a request. -/
def Request.fallback (r : Request) (known : Option Indicators) : Option (List Match) :=
  known.map (·.patternMatchesIn r)

/-- The matches in a request; nothing if nothing was looked for. -/
def Request.process (r : Request) (adapters : List Adapter) (known : Option Indicators) :
    Except DecodeError (Option (List Match)) :=
  match Adapter.handling? adapters r with
  | some a => (a.extract r).map some
  | none => .ok (r.fallback known)

/-! ### Batches -/

/-- What became of one request of a batch. -/
structure RequestResult where
  requestId : String
  adapter : Option String
  found : Option (List Match)
  error : Option String

namespace RequestResult

def isFailed (r : RequestResult) : Bool := r.error.isSome

/-- The request was handled by an adapter and decoded. -/
def isMatched (r : RequestResult) : Bool := r.adapter.isSome && !r.isFailed

end RequestResult

/-- What became of the requests of a batch, in their order, and how many of each kind there are. -/
structure BatchResult where
  batchId : String
  received : Nat
  matched : Nat
  unmatched : Nat
  failed : Nat
  requests : List RequestResult

/-- Processes the request at a position of a batch. -/
def Request.processAt (batchId : String) (adapters : List Adapter) (known : Option Indicators)
    (position : Nat) (r : Request) : RequestResult :=
  let requestId := batchId ++ "/" ++ toString position
  let adapter := (Adapter.handling? adapters r).map Adapter.id
  match r.process adapters known with
  | .ok found => ⟨requestId, adapter, found, none⟩
  | .error e => ⟨requestId, adapter, none, some e.message⟩

/-- Processes requests; a failure concerns no other request. -/
def processBatch (batchId : String) (requests : List Request) (adapters : List Adapter)
    (known : Option Indicators) : BatchResult :=
  let results := requests.zipIdx.map fun (r, position) =>
    r.processAt batchId adapters known position
  let failed := results.countP RequestResult.isFailed
  let matched := results.countP RequestResult.isMatched
  ⟨batchId, requests.length, matched, results.length - matched - failed, failed, results⟩

end TrackerTraffic
