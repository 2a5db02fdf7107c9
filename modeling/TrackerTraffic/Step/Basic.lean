import TrackerTraffic.Path.Target
import TrackerTraffic.Step.Function

/-!
# Decoding steps

A step reads a value by a path, applies a function to it, or to each of its
items, and writes the result at a target.
-/

namespace TrackerTraffic

/-- Where a step reads its input, and whether it takes the items of an array one by one. -/
inductive StepInput where
  | single (path : Path)
  | each (path : Path)

def StepInput.path : StepInput → Path
  | .single path => path
  | .each path => path

/-- One instruction of a decoding. -/
structure Step where
  function : StepFunction
  input : StepInput
  output : Target

end TrackerTraffic
