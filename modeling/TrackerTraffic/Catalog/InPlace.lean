import TrackerTraffic.Catalog.Basic

/-!
# Catalogs changed in place

The operations as work on a catalog that is there.  Work reads and writes the trackers
and the adapters one after another, and a failure takes back nothing that was written
before it.  While a document is read, a tracker is known by its entry, so that equal
trackers of two entries are two trackers.
-/

namespace TrackerTraffic.Catalog

/-! ### Documents -/

/-- A catalog while its document is read: each tracker with the number of its entry. -/
structure Loading where
  trackers : List (Nat × Tracker)
  adapters : List Adapter

namespace Loading

/-- The trackers with that of an entry behind them, unless an equal one is there. -/
def list (entry : Nat) (t : Tracker) (trackers : List (Nat × Tracker)) : List (Nat × Tracker) :=
  if (trackers.map Prod.snd).contains t then trackers else trackers ++ [(entry, t)]

def push (entry : Nat) (l : Loading) (a : Adapter) : Except CatalogError Loading :=
  if (l.adapters.map Adapter.id).contains a.id then .error (.duplicate a.id)
  else .ok ⟨list entry a.tracker l.trackers, l.adapters ++ [a]⟩

/-- Adds the tracker of an entry, unless this very tracker is there. -/
def close (entry : Nat) (t : Tracker) (l : Loading) : Loading :=
  if (l.trackers.map Prod.fst).contains entry then l
  else ⟨l.trackers ++ [(entry, t)], l.adapters⟩

def addEntry (l : Loading) (e : Entry × Nat) : Except CatalogError Loading := do
  let l ← e.1.adapters.foldlM (fun l v => do
    let a ← (Adapter.read e.1.tracker v).mapError .adapter
    l.push e.2 a) l
  return l.close e.2 e.1.tracker

def catalog (l : Loading) : Catalog := ⟨l.trackers.map Prod.snd, l.adapters⟩

def ofDocument (v : Json) : Except CatalogError Catalog := do
  let entries ← (readEntries v).mapError .wrongShape
  let l ← entries.zipIdx.foldlM addEntry ⟨[], []⟩
  return l.catalog

end Loading

/-! ### Work -/

/-- Work on a catalog, which answers or fails and leaves a catalog behind in both cases. -/
abbrev Work (α : Type) := EStateM CatalogError Catalog α

namespace Work

def addTracker (t : Tracker) : Work Unit := do
  let c ← get
  if c.trackers.contains t then return
  set { c with trackers := c.trackers ++ [t] }

def push (a : Adapter) : Work Unit := do
  let c ← get
  if c.ids.contains a.id then throw (.duplicate a.id)
  addTracker a.tracker
  modify fun c => { c with adapters := c.adapters ++ [a] }

/-- Adds what another catalog holds, and answers how many adapters that is. -/
def merge (other : Catalog) : Work Nat := do
  let c ← get
  match other.ids.find? c.ids.contains with
  | some id => throw (.duplicate id)
  | none =>
    other.trackers.forM addTracker
    modify fun c => { c with adapters := c.adapters ++ other.adapters }
    return other.adapters.length

/-- Adds what a text describes. -/
def mergeText (text : String) : Work Nat :=
  match ofText text with
  | .ok other => merge other
  | .error e => throw e

/-- Puts a catalog that could be read in the place of the one that is there. -/
def replace : Except CatalogError Catalog → Work Unit
  | .ok c => set c
  | .error e => throw e

def clear : Work Unit := do
  modify fun c => { c with trackers := [] }
  modify fun c => { c with adapters := [] }

end Work

/-- The calls that change a catalog. -/
inductive Call where
  | loadText (text : String)
  | load (document : Json)
  | push (a : Adapter)
  | merge (other : Catalog)
  | clear

def Call.work : Call → Work Unit
  | .loadText text =>
    match Json.read? text with
    | some v => Work.replace (Loading.ofDocument v)
    | none => throw .syntaxError
  | .load document => Work.replace (Loading.ofDocument document)
  | .push a => Work.push a
  | .merge other => do
    let _ ← Work.merge other
  | .clear => Work.clear

/-- The catalog that a call leaves behind, whether or not it fails. -/
def Call.after (c : Catalog) (call : Call) : Catalog :=
  match call.work.run c with
  | .ok _ c' => c'
  | .error _ c' => c'

end TrackerTraffic.Catalog
