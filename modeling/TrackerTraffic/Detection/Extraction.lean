import TrackerTraffic.Adapter.Basic
import TrackerTraffic.Decoding.Run
import TrackerTraffic.Detection.Match

/-!
# Extraction

The values at an adapter's data paths in the tree that its steps decode.
-/

namespace TrackerTraffic

namespace DataPath

def admitsText (d : DataPath) (text : String) : Bool :=
  d.onlyIf.all (·.fits text) && !d.notIf.any (·.fits text)

/-- The value counts: nulls and blank texts never do. -/
def admits (d : DataPath) (v : Json) : Bool :=
  match v with
  | .null => false
  | .string s => !(Text.trim s.toList).isEmpty && d.admitsText s
  | v => d.admitsText v.text

/-- The part of a decoded tree that belongs to the path's context. -/
def scope? (d : DataPath) : Json → Option Json
  | .object members => Json.lookup d.context.name members
  | _ => none

/-- The values that count, in document order. -/
def values (d : DataPath) (decoded : Json) : List Json :=
  match d.scope? decoded with
  | some scope => (d.path.query scope).filter d.admits
  | none => []

end DataPath

namespace Adapter

def matchesAt (a : Adapter) (decoded : Json) (property : Property) (d : DataPath) : List Match :=
  (d.values decoded).map fun v => ⟨some a.id, property, d.context, d.path.source, d.reasoning, v⟩

/-- The matches in a decoded tree, in the order of declaration. -/
def matchesIn (a : Adapter) (decoded : Json) : List Match :=
  a.dataPaths.flatMap fun entry => entry.2.flatMap (a.matchesAt decoded entry.1)

/-- The matches in a request, whether or not the adapter handles it. -/
def extract (a : Adapter) (r : Request) : Except DecodeError (List Match) :=
  (r.decode a.steps).map a.matchesIn

end Adapter

end TrackerTraffic
