import TrackerTraffic.Decoding.Error
import TrackerTraffic.Json.Coercion
import TrackerTraffic.Request.Basic
import TrackerTraffic.Step.Basic

/-!
# Decoding runs

Steps are applied one after the other to the tree of a request.  A step without input
or without result is passed over; a step that fails ends the run.  What the steps have
collected in the result slot is the decoded tree.
-/

namespace TrackerTraffic

/-- Why a step was passed over. -/
inductive SkipReason where
  | falsyInput
  | falsyOutput
deriving DecidableEq

/-- What a step finds in a tree. -/
inductive Finding where
  | value (value : Json)
  | skipped (reason : SkipReason)
  | failed (cause : StepError)
  | notAnArray (found : Json.Kind)

namespace Step

/-- What the function gives for every item that is not null. -/
def mapItems (f : StepFunction) (items : List Json) : Except StepError (List Json) :=
  (items.filter (!·.isNull)).mapM f.apply

def find (step : Step) (state : Json) : Finding :=
  match step.input with
  | .single path =>
    let input := (path.queryCollapsed state).getD .null
    if !input.isTruthy then .skipped .falsyInput
    else
      match step.function.apply input with
      | .error e => .failed e
      | .ok result => if result.isTruthy then .value result else .skipped .falsyOutput
  | .each path =>
    match path.queryCollapsed state with
    | some (.array items) =>
      match mapItems step.function items with
      | .error e => .failed e
      | .ok results => .value (.array results)
    | other => .notAnArray (other.getD .null).kind

/-- The tree behind the step, which is the `index`th. -/
def advance (step : Step) (index : Nat) (state : Json) : Except DecodeError Json :=
  match step.find state with
  | .skipped _ => .ok state
  | .failed e => .error (.step index step.function.name e)
  | .notAnArray found => .error (.notAnArray index step.input.path.source found)
  | .value result =>
    match step.output.assign state result with
    | (after, .written) => .ok after
    | (_, .conflict) => .error (.conflict index step.output.source)

/-- The tree behind steps, the first of which is the `index`th. -/
def advanceAll : List Step → Nat → Json → Except DecodeError Json
  | [], _, state => .ok state
  | step :: rest, index, state =>
    match step.advance index state with
    | .ok after => advanceAll rest (index + 1) after
    | .error e => .error e

end Step

/-- What stands in the result slot of a tree. -/
def resultOf : Json → Json
  | .object members => (Json.lookup Request.resultSlot members).getD (.object [])
  | _ => .object []

/-- The tree that steps decode from a request. -/
def Request.decode (r : Request) (steps : List Step) : Except DecodeError Json :=
  (Step.advanceAll steps 0 r.initialState).map resultOf

end TrackerTraffic
