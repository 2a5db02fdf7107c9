import TrackerTraffic.Step.Error

/-!
# Failures of decoding
-/

namespace TrackerTraffic

/-- Why a request is not decoded: what went wrong at which step. -/
inductive DecodeError where
  | step (index : Nat) (function : String) (cause : StepError)
  | notAnArray (index : Nat) (path : String) (found : Json.Kind)
  | conflict (index : Nat) (path : String)
deriving DecidableEq

def DecodeError.message : DecodeError → String
  | .step index function cause => s!"step {index} ({function}) failed: {cause.message}"
  | .notAnArray index path found =>
    s!"step {index}: mapInput `{path}` resolved to {found.name}, expected an array"
  | .conflict index path => s!"step {index}: cannot write `{path}` through a non-container value"

end TrackerTraffic
