import TrackerTraffic.Decoding.Run

/-!
# Runs and their trees

What one step can do to a tree, and from it what steps one behind the other do.  A step
changes an object by inserting members and in no other way, so what insertions keep holds
of the trees of a whole run.
-/

namespace TrackerTraffic.Step

open Target

/-! ### One step -/

variable {step : Step} {index : Nat} {state after : Json}

/-- A step that succeeds was passed over, or wrote what it found. -/
theorem advance_eq_ok_iff :
    step.advance index state = .ok after ↔
      (∃ reason, step.find state = .skipped reason ∧ after = state) ∨
        ∃ result, step.find state = .value result ∧
          step.output.assign state result = (after, .written) := by
  rw [advance]
  cases step.find state with
  | skipped reason => simp [eq_comm]
  | failed cause => simp
  | notAnArray found => simp
  | value result =>
    rcases hassign : step.output.assign state result with ⟨tree, outcome⟩
    cases outcome with
    | written => simp [hassign]
    | conflict => simp [hassign]

/-- A step fails in its function, at what it wanted to read as an array, or where it writes. -/
theorem advance_eq_error_iff {e : DecodeError} :
    step.advance index state = .error e ↔
      (∃ cause, step.find state = .failed cause ∧ e = .step index step.function.name cause) ∨
        (∃ found, step.find state = .notAnArray found ∧
          e = .notAnArray index step.input.path.source found) ∨
        ∃ result, step.find state = .value result ∧
          (step.output.assign state result).2 = .conflict ∧
          e = .conflict index step.output.source := by
  rw [advance]
  cases step.find state with
  | skipped reason => simp
  | failed cause => simp [eq_comm]
  | notAnArray found => simp [eq_comm]
  | value result =>
    rcases hassign : step.output.assign state result with ⟨tree, outcome⟩
    cases outcome with
    | written => simp [hassign]
    | conflict => simp [hassign, eq_comm]

/-! ### Steps behind each other -/

theorem advanceAll_append (front back : List Step) (index : Nat) (state : Json) :
    advanceAll (front ++ back) index state =
      advanceAll front index state >>= advanceAll back (index + front.length) := by
  induction front generalizing index state with
  | nil => rfl
  | cons step rest ih =>
    rw [List.cons_append, advanceAll, advanceAll]
    cases step.advance index state with
    | error e => rfl
    | ok after =>
      simp only [ih, List.length_cons, Nat.add_comm rest.length 1, ← Nat.add_assoc]

/-! ### What insertions keep -/

/-- The tree is an object whose members have a property. -/
def HasMembers (P : Json.Members → Prop) (state : Json) : Prop :=
  ∃ members, state = .object members ∧ P members

/-- Members that have a property have it after any insertion. -/
def KeptByInsert (P : Json.Members → Prop) : Prop :=
  ∀ name value members, P members → P (Json.insert name value members)

namespace HasMembers

variable {P : Json.Members → Prop}

theorem makeRoom (h : HasMembers P state) (hkept : KeptByInsert P) (key : Key) :
    HasMembers P (Target.makeRoom key state).1 := by
  obtain ⟨members, rfl, hP⟩ := h
  rw [Target.makeRoom]
  cases Json.lookup key.text members with
  | some old => exact ⟨members, rfl, hP⟩
  | none => exact ⟨_, rfl, hkept _ _ _ hP⟩

theorem put (h : HasMembers P state) (hkept : KeptByInsert P) (key : Key) (value : Json) :
    HasMembers P (Target.put key value state) := by
  obtain ⟨members, rfl, hP⟩ := h
  exact ⟨_, rfl, hkept _ _ _ hP⟩

/-- A write keeps what insertions keep, also where it fails. -/
theorem assignAt (h : HasMembers P state) (hkept : KeptByInsert P) (value : Json)
    (keys : List Key) : HasMembers P (Target.assignAt value keys state).1 := by
  cases keys with
  | nil => exact h
  | cons key rest =>
    have hroom := h.makeRoom hkept key
    rcases hmake : Target.makeRoom key state with ⟨roomy, found⟩
    rw [hmake] at hroom
    cases rest with
    | nil =>
      rw [Target.assignAt, hmake]
      cases found with
      | none => exact hroom
      | some child => exact hroom.put hkept key value
    | cons next later =>
      rw [Target.assignAt, hmake]
      · cases found with
        | none => exact hroom
        | some child =>
          dsimp only
          split
          · exact hroom.put hkept key _
          · exact hroom
      · simp

theorem advance (h : HasMembers P state) (hkept : KeptByInsert P)
    (hstep : step.advance index state = .ok after) : HasMembers P after := by
  rcases advance_eq_ok_iff.1 hstep with ⟨reason, -, rfl⟩ | ⟨result, -, hassign⟩
  · exact h
  · have hafter := h.assignAt hkept result step.output.keys
    rw [Target.assign] at hassign
    rw [hassign] at hafter
    exact hafter

/-- What insertions keep holds of the tree behind any steps. -/
theorem advanceAll (h : HasMembers P state) (hkept : KeptByInsert P) {steps : List Step}
    (hsteps : Step.advanceAll steps index state = .ok after) : HasMembers P after := by
  induction steps generalizing index state with
  | nil => exact Except.ok.inj hsteps ▸ h
  | cons step rest ih =>
    rw [Step.advanceAll] at hsteps
    split at hsteps
    · rename_i hstep
      exact ih (h.advance hkept hstep) hsteps
    · cases hsteps

end HasMembers

end TrackerTraffic.Step
