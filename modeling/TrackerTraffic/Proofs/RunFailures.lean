import TrackerTraffic.Proofs.MemberOrder
import TrackerTraffic.Proofs.RunStates

/-!
# Where runs fail

A run fails at one step: the steps in front of it run, and with the steps up to it every
run fails in the same way.  A step that finds nothing may be left out, and the result slot
is there as long as a run goes on.
-/

namespace TrackerTraffic

/-! ### What an error says of its step -/

namespace DecodeError

/-- The number of the step that failed. -/
def index : DecodeError → Nat
  | step index _ _ => index
  | notAnArray index _ _ => index
  | conflict index _ => index

/-- The error names the step's function, or the path at which the step wanted to read an array or to
write. -/
def Names (s : Step) : DecodeError → Prop
  | step _ function _ => function = s.function.name
  | notAnArray _ path _ => path = s.input.path.source
  | conflict _ path => path = s.output.source

end DecodeError

namespace Step

theorem advance_error {step : Step} {index : Nat} {state : Json} {e : DecodeError}
    (h : step.advance index state = .error e) : e.index = index ∧ e.Names step := by
  rcases advance_eq_error_iff.1 h with ⟨cause, -, rfl⟩ | ⟨found, -, rfl⟩ | ⟨result, -, -, rfl⟩
  · exact ⟨rfl, rfl⟩
  · exact ⟨rfl, rfl⟩
  · exact ⟨rfl, rfl⟩

/-! ### The step that fails -/

theorem exists_of_advanceAll_append {front back : List Step} {index : Nat} {state after : Json}
    (h : advanceAll (front ++ back) index state = .ok after) :
    ∃ between, advanceAll front index state = .ok between ∧
      advanceAll back (index + front.length) between = .ok after := by
  rw [advanceAll_append] at h
  cases hfront : advanceAll front index state with
  | error e =>
    rw [hfront] at h
    cases h
  | ok between =>
    rw [hfront] at h
    exact ⟨between, rfl, h⟩

theorem advanceAll_append_of_ok {front : List Step} {index : Nat} {state between : Json}
    (h : advanceAll front index state = .ok between) (back : List Step) :
    advanceAll (front ++ back) index state =
      advanceAll back (index + front.length) between := by
  rw [advanceAll_append, h]
  rfl

/-- A run that fails comes to a step that fails behind steps that run. -/
theorem exists_of_advanceAll_error {steps : List Step} {index : Nat} {state : Json}
    {e : DecodeError} (h : advanceAll steps index state = .error e) :
    ∃ front step back between, steps = front ++ step :: back ∧
      advanceAll front index state = .ok between ∧
      step.advance (index + front.length) between = .error e := by
  induction steps generalizing index state with
  | nil => cases h
  | cons step rest ih =>
    rw [advanceAll] at h
    cases hstep : step.advance index state with
    | error cause =>
      rw [hstep] at h
      obtain rfl := Except.error.inj h
      exact ⟨[], step, rest, state, rfl, rfl, hstep⟩
    | ok after =>
      rw [hstep] at h
      obtain ⟨front, failing, back, between, rfl, hfront, hfailing⟩ := ih h
      refine ⟨step :: front, failing, back, between, rfl, ?_, ?_⟩
      · rw [advanceAll, hstep]
        exact hfront
      · rw [List.length_cons, Nat.add_comm front.length 1, ← Nat.add_assoc]
        exact hfailing

theorem advanceAll_of_fails {front : List Step} {step : Step} {index : Nat}
    {state between : Json} {e : DecodeError}
    (hfront : advanceAll front index state = .ok between)
    (hstep : step.advance (index + front.length) between = .error e) (back : List Step) :
    advanceAll (front ++ step :: back) index state = .error e := by
  rw [advanceAll_append_of_ok hfront, advanceAll, hstep]

/-! ### Steps that find nothing -/

/-- What a step of one value is applied to, or what it makes of it, counts as false. -/
def IsIdle (step : Step) (state : Json) : Prop :=
  ∃ path, step.input = .single path ∧
    (((path.queryCollapsed state).getD .null).isTruthy = false ∨
      ∃ result, step.function.apply ((path.queryCollapsed state).getD .null) = .ok result ∧
        result.isTruthy = false)

theorem IsIdle.find {step : Step} {state : Json} (h : step.IsIdle state) :
    ∃ reason, step.find state = .skipped reason := by
  obtain ⟨path, hinput, hfalsy⟩ := h
  rw [Step.find, hinput]
  dsimp only
  cases htruthy : ((path.queryCollapsed state).getD .null).isTruthy with
  | false => exact ⟨.falsyInput, rfl⟩
  | true =>
    rcases hfalsy with hfalse | ⟨result, hresult, hfalse⟩
    · rw [htruthy] at hfalse
      cases hfalse
    · rw [hresult]
      dsimp only
      rw [hfalse]
      exact ⟨.falsyOutput, rfl⟩

theorem IsIdle.advance {step : Step} {state : Json} (h : step.IsIdle state) (index : Nat) :
    step.advance index state = .ok state := by
  obtain ⟨reason, hfind⟩ := h.find
  rw [Step.advance, hfind]

/-- The number of a step shows in its error only. -/
theorem advance_ok_congr {step : Step} {index : Nat} {state after : Json}
    (h : step.advance index state = .ok after) (other : Nat) :
    step.advance other state = .ok after :=
  advance_eq_ok_iff.2 (advance_eq_ok_iff.1 h)

theorem advanceAll_ok_congr {steps : List Step} {index : Nat} {state after : Json}
    (h : advanceAll steps index state = .ok after) (other : Nat) :
    advanceAll steps other state = .ok after := by
  induction steps generalizing index other state with
  | nil => exact h
  | cons step rest ih =>
    rw [advanceAll] at h
    cases hstep : step.advance index state with
    | error e =>
      rw [hstep] at h
      cases h
    | ok between =>
      rw [hstep] at h
      rw [advanceAll, advance_ok_congr hstep other]
      exact ih h (other + 1)

/-- A step that finds nothing makes no difference to a run that comes to its end. -/
theorem advanceAll_idle_iff {front : List Step} {step : Step} {index : Nat} {state between : Json}
    (hfront : advanceAll front index state = .ok between) (hidle : step.IsIdle between)
    (back : List Step) (after : Json) :
    advanceAll (front ++ step :: back) index state = .ok after ↔
      advanceAll (front ++ back) index state = .ok after := by
  rw [advanceAll_append_of_ok hfront, advanceAll_append_of_ok hfront, advanceAll,
    hidle.advance]
  exact ⟨fun h => advanceAll_ok_congr h _, fun h => advanceAll_ok_congr h _⟩

/-! ### The result slot -/

/-- Something stands in the result slot. -/
def HasResult (members : Json.Members) : Prop :=
  ∃ v, Json.lookup Request.resultSlot members = some v

theorem keptByInsert_hasResult : KeptByInsert HasResult := by
  rintro name value members ⟨v, hv⟩
  by_cases hname : name = Request.resultSlot
  · refine ⟨value, ?_⟩
    rw [hname, Json.lookup_insert_self]
  · refine ⟨v, ?_⟩
    rw [Json.lookup_insert_of_ne hname, hv]

end Step

namespace Request

theorem hasResult_initialState (r : Request) : Step.HasMembers Step.HasResult r.initialState := by
  refine ⟨_, rfl, .object [], ?_⟩
  cases r.headers.isEmpty <;> cases r.cookies.isEmpty <;> cases r.queryString <;>
    cases r.content <;> rfl

/-- Behind any steps of a run the result slot is there. -/
theorem exists_result_of_run (r : Request) {steps : List Step} {state : Json}
    (h : Step.advanceAll steps 0 r.initialState = .ok state) :
    ∃ members v, state = .object members ∧ Json.lookup resultSlot members = some v := by
  obtain ⟨members, rfl, v, hv⟩ :=
    r.hasResult_initialState.advanceAll Step.keptByInsert_hasResult h
  exact ⟨members, v, rfl, hv⟩

/-! ### Decoding -/

variable {r : Request} {steps : List Step}

theorem decode_eq_error_iff {e : DecodeError} :
    r.decode steps = .error e ↔ Step.advanceAll steps 0 r.initialState = .error e := by
  rw [decode]
  cases Step.advanceAll steps 0 r.initialState with
  | error cause => exact Iff.rfl
  | ok state => exact ⟨fun h => (by cases h), fun h => (by cases h)⟩

theorem decode_eq_ok_iff {v : Json} :
    r.decode steps = .ok v ↔
      ∃ state, Step.advanceAll steps 0 r.initialState = .ok state ∧ resultOf state = v := by
  rw [decode]
  cases Step.advanceAll steps 0 r.initialState with
  | error cause =>
    refine ⟨fun h => (by cases h), ?_⟩
    rintro ⟨state, h, -⟩
    cases h
  | ok state =>
    constructor
    · intro h
      exact ⟨state, rfl, Except.ok.inj h⟩
    · rintro ⟨other, h, rfl⟩
      rw [Except.ok.inj h]
      rfl

theorem decode_of_run {state : Json} (h : Step.advanceAll steps 0 r.initialState = .ok state) :
    r.decode steps = .ok (resultOf state) :=
  decode_eq_ok_iff.2 ⟨state, h, rfl⟩

/-- An error is that of the step whose number it has: the steps in front of it decode, and with any
steps behind it the run fails in the same way. -/
theorem located_of_decode_error {e : DecodeError} (h : r.decode steps = .error e) :
    ∃ hindex : e.index < steps.length, e.Names steps[e.index] ∧
      (∃ v, r.decode (steps.take e.index) = .ok v) ∧
      ∀ n, e.index < n → r.decode (steps.take n) = .error e := by
  obtain ⟨front, step, back, between, rfl, hfront, hstep⟩ :=
    Step.exists_of_advanceAll_error (decode_eq_error_iff.1 h)
  obtain ⟨hindex, hnames⟩ := Step.advance_error hstep
  rw [Nat.zero_add] at hindex
  have hlt : e.index < (front ++ step :: back).length := by
    rw [hindex, List.length_append, List.length_cons]
    omega
  have hget : (front ++ step :: back)[e.index] = step := by
    simp only [hindex, List.getElem_append_right (Nat.le_refl _), Nat.sub_self,
      List.getElem_cons_zero]
  refine ⟨hlt, by rw [hget]; exact hnames, ⟨resultOf between, ?_⟩, fun n hn => ?_⟩
  · rw [List.take_left' hindex.symm]
    exact decode_of_run hfront
  · obtain ⟨m, rfl⟩ : ∃ m, n = front.length + (m + 1) := ⟨n - front.length - 1, by omega⟩
    rw [List.take_length_add_append, List.take_succ_cons, decode_eq_error_iff]
    exact Step.advanceAll_of_fails hfront hstep (back.take m)

theorem decode_take_of_decode {v : Json} (h : r.decode steps = .ok v) (n : Nat) :
    ∃ w, r.decode (steps.take n) = .ok w := by
  obtain ⟨state, hstate, -⟩ := decode_eq_ok_iff.1 h
  rw [← List.take_append_drop n steps] at hstate
  obtain ⟨between, hbetween, -⟩ := Step.exists_of_advanceAll_append hstate
  exact ⟨_, decode_of_run hbetween⟩

/-- A failure is that of one step: it has the step's number and names it, the steps in front of it
decode, and every run that comes to it fails so.  A run that does not fail has no such step.  Steps
that find nothing may be left out of it, and in front of every step, as at the end, the tree is an
object with the result slot, where the decoded tree stands. -/
theorem decode_located (r : Request) (steps : List Step) :
    (∀ e, r.decode steps = .error e →
      ∃ hindex : e.index < steps.length, e.Names steps[e.index] ∧
        (∃ v, r.decode (steps.take e.index) = .ok v) ∧
        ∀ n, e.index < n → r.decode (steps.take n) = .error e) ∧
    (∀ v, r.decode steps = .ok v → ∀ n, ∃ w, r.decode (steps.take n) = .ok w) ∧
    (∀ front step back state, steps = front ++ step :: back →
      Step.advanceAll front 0 r.initialState = .ok state → step.IsIdle state →
      ∀ v, r.decode steps = .ok v ↔ r.decode (front ++ back) = .ok v) ∧
    ∀ n state, Step.advanceAll (steps.take n) 0 r.initialState = .ok state →
      ∃ members v, state = .object members ∧ Json.lookup resultSlot members = some v ∧
        r.decode (steps.take n) = .ok v := by
  refine ⟨fun e => located_of_decode_error, fun v => decode_take_of_decode,
    fun front step back state hsteps hfront hidle v => ?_, fun n state hstate => ?_⟩
  · rw [hsteps, decode_eq_ok_iff, decode_eq_ok_iff]
    simp only [Step.advanceAll_idle_iff hfront hidle]
  · obtain ⟨members, v, rfl, hv⟩ := r.exists_result_of_run hstate
    refine ⟨members, v, rfl, hv, ?_⟩
    rw [decode_of_run hstate, resultOf, hv]
    rfl

end Request

end TrackerTraffic
