import TrackerTraffic.Json.Basic
import TrackerTraffic.Wire.Cursor

/-!
# Failures of step functions
-/

namespace TrackerTraffic

/-- Why a step function has no result. -/
inductive StepError where
  | json
  | base64
  | gzip
  | protobuf (cause : Wire.WireError)
  | jwtWithoutPayload
  | jwtPayload
  | typeMismatch (found : Json.Kind)
deriving DecidableEq

/-- The failure's text; what a JSON, base64 or gzip reader objected to in particular is left out. -/
def StepError.message : StepError → String
  | .json => "invalid JSON: ..."
  | .base64 => "invalid base64: ..."
  | .gzip => "gunzip failed: ..."
  | .protobuf cause => "protobuf decode failed: " ++ cause.message
  | .jwtWithoutPayload => "invalid JWT: missing payload segment"
  | .jwtPayload => "invalid JWT: payload is not JSON: ..."
  | .typeMismatch found => s!"expected string, found {found.name}"

end TrackerTraffic
