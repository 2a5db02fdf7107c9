import TrackerTraffic.Catalog.Basic

/-!
# The shared catalog

A catalog that lasts, to which documents are added and which is emptied.
-/

namespace TrackerTraffic.Catalog

/-- What is done to the shared catalog. -/
inductive Operation where
  | load (text : String)
  | clear

/-- What an operation answers. -/
inductive Outcome where
  | loaded (added : Nat)
  | refused (cause : CatalogError)
  | cleared

/-- The catalog after an operation, and its answer; a refused document changes nothing. -/
def step (c : Catalog) : Operation → Catalog × Outcome
  | .load text =>
    match ofText text with
    | .error e => (c, .refused e)
    | .ok other =>
      match c.merge other with
      | .ok merged => (merged, .loaded other.adapters.length)
      | .error e => (c, .refused e)
  | .clear => (empty, .cleared)

/-- The catalogs after each of several operations, and their answers. -/
def run (c : Catalog) : List Operation → List (Catalog × Outcome)
  | [] => []
  | operation :: rest => c.step operation :: run (c.step operation).1 rest

end TrackerTraffic.Catalog
