/-!
# Errors in paths

Read paths are refused at a position, counted in characters; write paths are
refused as a whole.
-/

namespace TrackerTraffic

/-- Why a text is no path. -/
inductive PathError where
  | malformed (path : String) (position : Nat) (reason : String)
  | notWritable (path : String) (reason : String)
deriving DecidableEq

def PathError.message : PathError → String
  | .malformed path position reason => s!"invalid path `{path}` at position {position}: {reason}"
  | .notWritable path reason => s!"invalid output path `{path}`: {reason}"

end TrackerTraffic
