import TrackerTraffic.Adapter.Document
import TrackerTraffic.Json.Draft

/-!
# Catalogs

A catalog is an ordered collection of adapters with distinct ids, and of trackers.
The order decides which adapter handles a request.
-/

namespace TrackerTraffic

/-- Why a catalog is not read or changed. -/
inductive CatalogError where
  | syntaxError
  | wrongShape (cause : ShapeError)
  | adapter (cause : AdapterError)
  | duplicate (id : String)
deriving DecidableEq

def CatalogError.message : CatalogError → String
  | .syntaxError => "invalid catalog JSON: syntax"
  | .wrongShape cause => "invalid catalog JSON: " ++ cause.message
  | .adapter (.invalid id message) => s!"adapter {id}: {message}"
  | .adapter (.otherTracker id declared enclosing) =>
    s!"adapter {id} declares tracker {declared} but is listed under {enclosing}"
  | .duplicate id => s!"duplicate adapter id {id}"

/-- A catalog. -/
structure Catalog where
  trackers : List Tracker
  adapters : List Adapter

namespace Catalog

def empty : Catalog := ⟨[], []⟩

/-- The ids of the adapters, in order. -/
def ids (c : Catalog) : List String := c.adapters.map Adapter.id

def get? (c : Catalog) (id : String) : Option Adapter := c.adapters.find? (·.id == id)

/-- The trackers with another one behind them, unless an equal one is there. -/
def addTracker (trackers : List Tracker) (t : Tracker) : List Tracker :=
  if trackers.contains t then trackers else trackers ++ [t]

/-- Adds an adapter at the end, with its tracker if that is new. -/
def push (c : Catalog) (a : Adapter) : Except CatalogError Catalog :=
  if c.ids.contains a.id then .error (.duplicate a.id)
  else .ok ⟨addTracker c.trackers a.tracker, c.adapters ++ [a]⟩

/--
Adds the adapters of another catalog at the end, and those of its trackers that are
new; nothing if an id is in both.
-/
def merge (c other : Catalog) : Except CatalogError Catalog :=
  match other.ids.find? c.ids.contains with
  | some id => .error (.duplicate id)
  | none => .ok ⟨other.trackers.foldl addTracker c.trackers, c.adapters ++ other.adapters⟩

/-! ### Documents -/

/-- A tracker as it is written, with its adapters unread. -/
structure Entry where
  tracker : Tracker
  adapters : List Json

def entryFields : List (Field Json ShapeError Entry) :=
  [.must "slug" Reader.string fun slug e => { e with tracker := { e.tracker with slug } },
    .must "name" Reader.string fun name e => { e with tracker := { e.tracker with name } },
    .may "datenanfragenSlug" (Reader.optional Reader.string) fun datenanfragenSlug e =>
      { e with tracker := { e.tracker with datenanfragenSlug } },
    .may "exodusId" (Reader.optional Reader.word32) fun exodusId e =>
      { e with tracker := { e.tracker with exodusId } },
    .may "adapters" (Reader.list Reader.any) fun adapters e => { e with adapters }]

def readEntry : Reader Entry :=
  Reader.record "TrackerDocument" entryFields false ⟨⟨"", "", none, none⟩, []⟩

def readEntries : Reader (List Entry) :=
  Reader.record "CatalogDocument"
    [.may "trackers" (Reader.list readEntry) fun entries _ => entries] false []

/-- Adds the adapters of one tracker, and the tracker itself whether or not it has any. -/
def addEntry (c : Catalog) (e : Entry) : Except CatalogError Catalog := do
  let adapters ← e.adapters.foldlM (fun adapters v => do
    let a ← (Adapter.read e.tracker v).mapError .adapter
    if (adapters.map Adapter.id).contains a.id then .error (.duplicate a.id)
    else .ok (adapters ++ [a])) c.adapters
  return ⟨c.trackers ++ [e.tracker], adapters⟩

def ofDocument (v : Json) : Except CatalogError Catalog := do
  let entries ← (readEntries v).mapError .wrongShape
  entries.foldlM addEntry empty

def ofText (text : String) : Except CatalogError Catalog :=
  match Json.read? text with
  | some v => ofDocument v
  | none => .error .syntaxError

end Catalog

end TrackerTraffic
