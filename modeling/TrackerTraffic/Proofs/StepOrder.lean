import TrackerTraffic.Proofs.DottedPath
import TrackerTraffic.Proofs.RunStates

/-!
# The order of steps

Of two steps next to each other neither sees what the other one writes if their places
are apart.  They may then be swapped: a run fails with them in the one order exactly if it
fails with them in the other, and the decoded trees are the same but for the order of
members.
-/

namespace TrackerTraffic

open Target

/-! ### One step -/

/-- The tree with what a step found at a way of keys, unless the step or the write fails. -/
def Finding.enter (keys : List Key) : Finding → Json → Option Json
  | .value result, state => place result keys state
  | .skipped _, state => some state
  | .failed _, _ => none
  | .notAnArray _, _ => none

namespace Step

/-- What a function makes of the items of an array. -/
def findItems (f : StepFunction) : Json → Finding
  | .array items =>
    match mapItems f items with
    | .error e => .failed e
    | .ok results => .value (.array results)
  | v => .notAnArray v.kind

theorem find_each {step : Step} {path : Path} (h : step.input = .each path) (state : Json) :
    step.find state = findItems step.function ((path.queryCollapsed state).getD .null) := by
  simp only [find, h]
  cases path.queryCollapsed state with
  | none => rfl
  | some v => cases v <;> rfl

/-- A step finds nothing but what its function makes of the value that its path leads to. -/
theorem find_congr {step : Step} {s t : Json}
    (h : (step.input.path.queryCollapsed s).getD .null =
      (step.input.path.queryCollapsed t).getD .null) : step.find s = step.find t := by
  cases hinput : step.input with
  | single path =>
    have hpath : (path.queryCollapsed s).getD .null = (path.queryCollapsed t).getD .null := by
      rw [hinput] at h
      exact h
    rw [find, find, hinput]
    simp only [hpath]
  | each path =>
    rw [hinput] at h
    rw [find_each hinput, find_each hinput]
    exact congrArg (findItems step.function) h

/-- The step reads at a dotted path and writes at a dotted target. -/
structure IsDotted (step : Step) (input output : List String) : Prop where
  inputSegments : ∀ name ∈ input, Dotted.IsSegment name
  outputSegments : ∀ name ∈ output, Dotted.IsSegment name
  reads : Path.parse (Dotted.text input) = .ok step.input.path
  writes : Target.parse (Dotted.text output) = .ok step.output

/-- The step reads and writes at ways of keys. -/
structure Moves (step : Step) (source target : List Key) : Prop where
  sourcePlain : ∀ key ∈ source, key.Plain
  targetPlain : ∀ key ∈ target, key.Plain
  finds : ∀ root, (step.input.path.queryCollapsed root).getD .null = look source root
  keys : step.output.keys = target

theorem IsDotted.exists_moves {step : Step} {input output : List String}
    (h : step.IsDotted input output) (hinput : input ≠ []) (houtput : output ≠ []) :
    ∃ source target, step.Moves source target ∧ source.map Key.text = input ∧
      target.map Key.text = output := by
  obtain ⟨source, -, hsource, hplain⟩ := Dotted.exists_keys h.inputSegments
  obtain ⟨htarget, htargetPlain⟩ := Dotted.keys_of_parse h.outputSegments houtput h.writes
  refine ⟨source, step.output.keys, ⟨hplain, htargetPlain, fun root => ?_, rfl⟩, hsource, htarget⟩
  rw [Path.queryCollapsed, Path.query, Dotted.segments_of_parse h.inputSegments hinput h.reads,
    ← hsource, Dotted.collapse_selectAll]

theorem toOption_advance {step : Step} {source target : List Key} (h : step.Moves source target)
    (hne : target ≠ []) (index : Nat) (state : Json) :
    (step.advance index state).toOption = (step.find state).enter target state := by
  rw [advance]
  cases step.find state with
  | skipped reason => rfl
  | failed e => rfl
  | notAnArray found => rfl
  | value result =>
    -- A conflict leaves a tree too, but the run ends there.
    have hwritten := assignAt_eq_written_iff (Key.forall_bounded h.targetPlain) hne result state
    simp only [Target.assign, h.keys, Finding.enter]
    cases hassign : assignAt result target state with
    | mk root' outcome =>
      cases outcome with
      | written =>
        rw [(hwritten root').1 hassign]
        rfl
      | conflict =>
        cases hplace : place result target state with
        | none => rfl
        | some other =>
          rw [(hwritten other).2 hplace] at hassign
          cases hassign

/-- A write at a place apart does not change what a step finds. -/
theorem Moves.find_enter {step : Step} {source target others : List Key}
    (h : step.Moves source target) (hothers : ∀ key ∈ others, key.Plain)
    (hapart : Apart (others.map Key.text) (source.map Key.text)) {found : Finding}
    {s t : Json} (henter : found.enter others s = some t) : step.find t = step.find s := by
  apply find_congr
  rw [h.finds, h.finds]
  cases found with
  | skipped reason =>
    obtain rfl : s = t := Option.some.inj henter
    rfl
  | value result => exact look_place hothers h.sourcePlain hapart henter
  | failed e => cases henter
  | notAnArray kind => cases henter

end Step

/-! ### Two steps -/

theorem rel_refl (x : Option Json) : Option.Rel Json.SameButOrder x x := by
  cases x with
  | none => exact .none
  | some v => exact .some (.refl v)

theorem Finding.enter_comm {keys others : List Key} (hkeys : ∀ key ∈ keys, key.Plain)
    (hothers : ∀ key ∈ others, key.Plain)
    (hapart : Apart (keys.map Key.text) (others.map Key.text)) (f g : Finding) (state : Json) :
    Option.Rel Json.SameButOrder ((f.enter keys state).bind (g.enter others))
      ((g.enter others state).bind (f.enter keys)) := by
  cases f with
  | skipped reason =>
    show Option.Rel _ (g.enter others state) ((g.enter others state).bind some)
    rw [Option.bind_fun_some]
    exact rel_refl _
  | failed _ | notAnArray _ =>
    show Option.Rel _ none ((g.enter others state).bind fun _ => none)
    rw [Option.bind_fun_none]
    exact .none
  | value v =>
    cases g with
    | skipped reason =>
      show Option.Rel _ ((place v keys state).bind some) (place v keys state)
      rw [Option.bind_fun_some]
      exact rel_refl _
    | failed _ | notAnArray _ =>
      show Option.Rel _ ((place v keys state).bind fun _ => none) none
      rw [Option.bind_fun_none]
      exact .none
    | value w => exact place_comm hkeys hothers hapart v w state

namespace Step

/-- Two steps one after the other enter what both of them find in the tree in front of them. -/
theorem toOption_advanceAll_pair {first second : Step} {source target other last : List Key}
    (hfirst : first.Moves source target) (hsecond : second.Moves other last) (hne : target ≠ [])
    (hlast : last ≠ []) (hapart : Apart (target.map Key.text) (other.map Key.text))
    (index : Nat) (state : Json) :
    (advanceAll [first, second] index state).toOption =
      ((first.find state).enter target state).bind ((second.find state).enter last) := by
  have hstep := toOption_advance hfirst hne index state
  rw [advanceAll, ← hstep]
  cases hadvance : first.advance index state with
  | error e => rfl
  | ok between =>
    rw [hadvance] at hstep
    -- What the first step wrote is out of the second one's sight.
    have hfind := hsecond.find_enter hfirst.targetPlain hapart hstep.symm
    have hrest := toOption_advance hsecond hlast (index + 1) between
    rw [hfind] at hrest
    show (advanceAll [second] (index + 1) between).toOption = _
    rw [advanceAll]
    cases hbehind : second.advance (index + 1) between with
    | error e =>
      rw [hbehind] at hrest
      exact hrest
    | ok behind =>
      rw [hbehind] at hrest
      exact hrest

/-! ### Trees of a run -/

/-- The tree is an object with distinct names. -/
def IsState (state : Json) : Prop :=
  ∃ members, state = .object members ∧ (members.map Prod.fst).Nodup

theorem IsState.advanceAll {steps : List Step} {index : Nat} {s t : Json} (hs : IsState s)
    (h : advanceAll steps index s = .ok t) : IsState t :=
  HasMembers.advanceAll (P := fun members => (members.map Prod.fst).Nodup) hs
    (fun _ _ _ => Json.nodup_insert) h

end Step

theorem Request.isState_initialState (r : Request) : Step.IsState r.initialState := by
  refine ⟨_, rfl, ?_⟩
  cases r.headers.isEmpty <;> cases r.cookies.isEmpty <;> cases r.queryString <;>
    cases r.content <;> simp [resultSlot]

theorem sameButOrder_resultOf {s t : Json} (hs : Step.IsState s) (h : s.SameButOrder t) :
    (resultOf s).SameButOrder (resultOf t) := by
  obtain ⟨members, rfl, hnodup⟩ := hs
  obtain ⟨others, rfl, -, hlookup⟩ := h.exists_members rfl hnodup
  exact hlookup Request.resultSlot (.object [])

/-- Runs that both fail, or end with trees that are the same but for the order of members, decode
such trees. -/
theorem decoded_of_rel {x y : Except DecodeError Json} (hx : ∀ s, x = .ok s → Step.IsState s)
    (h : Option.Rel Json.SameButOrder x.toOption y.toOption) :
    ((∃ v, x.map resultOf = .ok v) ↔ ∃ v, y.map resultOf = .ok v) ∧
      ∀ v w, x.map resultOf = .ok v → y.map resultOf = .ok w → v.SameButOrder w := by
  cases x with
  | error e =>
    cases y with
    | error e' => simp [Except.map]
    | ok t => cases h
  | ok s =>
    cases y with
    | error e => cases h
    | ok t =>
      cases h with
      | some hst => simpa [Except.map] using sameButOrder_resultOf (hx s rfl) hst

/-- Two steps next to each other may be swapped at the end of a run if neither writes on the way to
what the other one reads or writes, nor below it. -/
theorem Request.decode_swap (r : Request) (before : List Step) {first second : Step}
    {a b p q : List String} (hfirst : first.IsDotted a p) (hsecond : second.IsDotted b q)
    (hwrites : Apart p q) (hreads : Apart p b) (hback : Apart q a) :
    ((∃ v, r.decode (before ++ [first, second]) = .ok v) ↔
        ∃ v, r.decode (before ++ [second, first]) = .ok v) ∧
      ∀ v w, r.decode (before ++ [first, second]) = .ok v →
        r.decode (before ++ [second, first]) = .ok w → v.SameButOrder w := by
  obtain ⟨source, target, hone, rfl, rfl⟩ := hfirst.exists_moves hback.symm.ne_nil hwrites.ne_nil
  obtain ⟨other, last, htwo, rfl, rfl⟩ := hsecond.exists_moves hreads.symm.ne_nil hback.ne_nil
  have htarget : target ≠ [] := by simpa using hwrites.ne_nil
  have hlast : last ≠ [] := by simpa using hback.ne_nil
  apply decoded_of_rel
  · exact fun s hs => r.isState_initialState.advanceAll hs
  rw [Step.advanceAll_append, Step.advanceAll_append]
  -- The steps in front make the same tree, or fail, in both runs.
  cases Step.advanceAll before 0 r.initialState with
  | error e => exact .none
  | ok state =>
    show Option.Rel _ (Step.advanceAll [first, second] (0 + before.length) state).toOption
      (Step.advanceAll [second, first] (0 + before.length) state).toOption
    rw [Step.toOption_advanceAll_pair hone htwo htarget hlast hreads,
      Step.toOption_advanceAll_pair htwo hone hlast htarget hback]
    exact Finding.enter_comm hone.targetPlain htwo.targetPlain hwrites _ _ state

theorem Request.decode_swap_body_path :
    let r : Request := { endpointUrl := "", path := "/a", content := some "x" }
    let first : Step := ⟨.ensureArray, .single ⟨"body", [.child "body"]⟩,
      ⟨"res.body.0", [.name "res", .name "body", .position 0]⟩⟩
    let second : Step := ⟨.ensureArray, .single ⟨"path", [.child "path"]⟩,
      ⟨"res.path", [.name "res", .name "path"]⟩⟩
    let body := ("body", Json.object [("0", .array [.string "x"])])
    let path := ("path", Json.array [.string "/a"])
    first.IsDotted ["body"] ["res", "body", "0"] ∧ second.IsDotted ["path"] ["res", "path"] ∧
      r.decode [first, second] = .ok (.object [body, path]) ∧
      r.decode [second, first] = .ok (.object [path, body]) ∧
      (Json.object [body, path]).SameButOrder (.object [path, body]) := by
  have hname : ∀ name ∈ ["body", "path", "res"], Dotted.IsSegment name := by
    simp only [List.forall_mem_cons]
    exact ⟨⟨by decide, by simp [Dotted.signs], fun h => absurd h (by decide)⟩,
      ⟨by decide, by simp [Dotted.signs], fun h => absurd h (by decide)⟩,
      ⟨by decide, by simp [Dotted.signs], fun h => absurd h (by decide)⟩, by simp⟩
  have hzero : Dotted.IsSegment "0" :=
    ⟨by decide, by simp [Dotted.signs], fun _ => ⟨0, by omega, rfl⟩⟩
  intro r first second body path
  have hfirst : first.IsDotted ["body"] ["res", "body", "0"] :=
    ⟨by simp [hname], by simp [hname, hzero], by cbv, by decide +kernel⟩
  have hsecond : second.IsDotted ["path"] ["res", "path"] :=
    ⟨by simp [hname], by simp [hname], by cbv, by decide +kernel⟩
  have hdecode : r.decode [first, second] = .ok (.object [body, path]) := by cbv
  have hswapped : r.decode [second, first] = .ok (.object [path, body]) := by cbv
  have hsame := (r.decode_swap [] hfirst hsecond (by simp [Apart]) (by simp [Apart])
    (by simp [Apart])).2 _ _ hdecode hswapped
  exact ⟨hfirst, hsecond, hdecode, hswapped, hsame⟩

end TrackerTraffic
