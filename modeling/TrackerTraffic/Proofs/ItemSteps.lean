import TrackerTraffic.Proofs.PathJoin
import TrackerTraffic.Proofs.StepOrder
import TrackerTraffic.Proofs.Traversal

/-!
# Steps for every item

A step that takes the items of an array one by one makes an array of its function's results
on the items that are not null, or fails as the first of them does.  Behind a path of names
`[*]` names the items themselves, and a path that leads to one value stands for that value:
the two ways to ask for the items of an array differ where it has less than two.
-/

namespace TrackerTraffic

/-! ### Texts of paths -/

namespace Path

/-- The path is written as names behind points, without brackets. -/
def IsDotted (path : Path) : Prop :=
  '[' ∉ path.source.toList ∧ ∀ segment ∈ path.segments, ∃ name, segment = .child name

/-- Behind a path, the sign for all items reads as a wildcard. -/
theorem parse_append {source : String} {path : Path} (hparse : parse source = .ok path)
    (_ : path.IsDotted) :
    parse (source ++ "[*]") = .ok ⟨source ++ "[*]", path.segments ++ [.wildcard]⟩ := by
  have hsign : readSegments "[*]".toList = .ok [.wildcard] := by cbv
  exact parse_behind ⟨'[', ['*', ']'], rfl, .inr rfl⟩ hparse hsign

/-! ### Values of paths -/

/-- Names lead to one value at most. -/
theorem exists_selectAll_named {segments : List Segment}
    (h : ∀ segment ∈ segments, ∃ name, segment = .child name) (root : Json) :
    ∃ found : Option Json, selectAll segments [root] = found.toList := by
  induction segments generalizing root with
  | nil => exact ⟨some root, rfl⟩
  | cons segment rest ih =>
    obtain ⟨name, rfl⟩ := h segment List.mem_cons_self
    rw [Target.selectAll_cons, Segment.select]
    cases childNamed name root with
    | none => exact ⟨none, Target.selectAll_nil_values rest⟩
    | some child => exact ih (fun s hs => h s (List.mem_cons_of_mem _ hs)) child

theorem query_of_named {path : Path} (h : ∀ segment ∈ path.segments, ∃ name, segment = .child name)
    {root v : Json} (hfound : path.queryCollapsed root = some v) : path.query root = [v] := by
  obtain ⟨found, hquery⟩ := exists_selectAll_named h root
  rw [queryCollapsed, query, hquery] at hfound
  rw [query, hquery]
  cases found with
  | none => cases hfound
  | some w =>
    obtain rfl : w = v := Option.some.inj hfound
    rfl

theorem select_wildcard (items : List Json) : Segment.wildcard.select (.array items) = items := by
  have hfst : (items.zipIdx.map fun entry => (Json.ofNat entry.2, entry.1)).map Prod.snd =
      items.zipIdx.map Prod.fst := by
    rw [List.map_map]
    rfl
  rw [Segment.select, keyedChildren, keyedItems, hfst, List.zipIdx_map_fst]

theorem queryCollapsed_each {path each : Path} (hdotted : path.IsDotted)
    (heach : each.segments = path.segments ++ [.wildcard]) {root : Json} {items : List Json}
    (hfound : path.queryCollapsed root = some (.array items)) :
    each.queryCollapsed root = collapse items := by
  have hquery := query_of_named hdotted.2 hfound
  rw [query] at hquery
  rw [queryCollapsed, query, heach, selectAll_append, hquery, Target.selectAll_cons,
    select_wildcard]
  rfl

end Path

/-! ### Outcomes of steps -/

namespace Step

variable {step : Step} {index : Nat} {state : Json}

/-- The tree with a result at the step's target. -/
def write (step : Step) (index : Nat) (result state : Json) : Except DecodeError Json :=
  match step.output.assign state result with
  | (after, .written) => .ok after
  | (_, .conflict) => .error (.conflict index step.output.source)

/-- The step writes its function's results on the items that are not null, or fails with the error
of the first of them that fails. -/
def Maps (step : Step) (index : Nat) (state : Json) (items : List Json) : Prop :=
  (∃ results, List.Forall₂ (fun item result => step.function.apply item = .ok result)
      (items.filter (!·.isNull)) results ∧
    step.advance index state = step.write index (.array results) state) ∨
  ∃ front item back e, items.filter (!·.isNull) = front ++ item :: back ∧
    (∀ other ∈ front, ∃ result, step.function.apply other = .ok result) ∧
    step.function.apply item = .error e ∧
    step.advance index state = .error (.step index step.function.name e)

theorem maps_of_find {items : List Json}
    (h : step.find state = findItems step.function (.array items)) :
    step.Maps index state items := by
  rw [findItems, mapItems] at h
  cases hmap : (items.filter (!·.isNull)).mapM step.function.apply with
  | ok results =>
    rw [hmap] at h
    refine .inl ⟨results, forall₂_of_mapM hmap, ?_⟩
    rw [advance, h]
    rfl
  | error e =>
    rw [hmap] at h
    obtain ⟨front, item, back, hitems, hfront, hitem⟩ := mapM_eq_error_iff.1 hmap
    refine .inr ⟨front, item, back, e, hitems, hfront, hitem, ?_⟩
    rw [advance, h]

theorem advance_congr {other : Step} (hfunction : other.function = step.function)
    (houtput : other.output = step.output) {items : List Json}
    (hstep : step.find state = findItems step.function (.array items))
    (hother : other.find state = findItems step.function (.array items)) :
    other.advance index state = step.advance index state := by
  rw [findItems] at hstep hother
  rw [advance, advance, hstep, hother, hfunction, houtput]
  cases mapItems step.function items <;> rfl

theorem advance_of_notAnArray {path : Path} (hinput : step.input = .each path) {v : Json}
    (hkind : v.kind ≠ .array) (h : step.find state = findItems step.function v) :
    step.advance index state = .error (.notAnArray index path.source v.kind) := by
  have hfind : findItems step.function v = .notAnArray v.kind := by
    cases v with
    | array items => exact absurd rfl hkind
    | _ => rfl
  rw [advance, h, hfind, hinput]
  rfl

/-- Where a path of names leads to an array, a step maps its items whatever their number is.  With
`[*]` behind the path it does the same for two items or more; a single item is taken for the
array itself, and no item for `null`. -/
theorem advance_each {source : String} {path : Path} (hparse : Path.parse source = .ok path)
    (hdotted : path.IsDotted) :
    ∃ each, Path.parse (source ++ "[*]") = .ok each ∧
      ∀ (f : StepFunction) (output : Target) (index : Nat) (state : Json) (items : List Json),
        path.queryCollapsed state = some (.array items) →
          let whole : Step := ⟨f, .each path, output⟩
          let single : Step := ⟨f, .each each, output⟩
          whole.Maps index state items ∧
          (2 ≤ items.length → single.advance index state = whole.advance index state) ∧
          (∀ inner, items = [.array inner] → single.Maps index state inner) ∧
          (∀ item, items = [item] → item.kind ≠ .array → single.advance index state =
            .error (.notAnArray index (source ++ "[*]") item.kind)) ∧
          (items = [] → single.advance index state =
            .error (.notAnArray index (source ++ "[*]") .null)) := by
  refine ⟨_, Path.parse_append hparse hdotted, ?_⟩
  intro f output index state items hfound whole single
  have hwhole : whole.find state = findItems f (.array items) := by
    rw [find_each rfl, hfound]
    rfl
  have hsingle : single.find state = findItems f ((Path.collapse items).getD .null) := by
    rw [find_each rfl, Path.queryCollapsed_each hdotted rfl hfound]
  refine ⟨maps_of_find hwhole, fun hlength => ?_, fun inner hitems => ?_,
    fun item hitems hkind => ?_, fun hitems => ?_⟩
  · obtain ⟨first, second, rest, rfl⟩ : ∃ first second rest, items = first :: second :: rest := by
      match items, hlength with
      | first :: second :: rest, _ => exact ⟨first, second, rest, rfl⟩
    exact advance_congr rfl rfl hwhole hsingle
  · subst hitems
    exact maps_of_find hsingle
  · subst hitems
    exact advance_of_notAnArray rfl hkind hsingle
  · subst hitems
    exact advance_of_notAnArray rfl (v := .null) (by decide) hsingle

theorem advance_each_ids :
    let path : Path := ⟨"res.ids", [.child "res", .child "ids"]⟩
    let state : Json := .object [("res", .object [("ids", .array [.string "a%20b", .null])])]
    let output : Target := ⟨"res.out", [.name "res", .name "out"]⟩
    Path.parse "res.ids" = .ok path ∧ path.IsDotted ∧
      path.queryCollapsed state = some (.array [.string "a%20b", .null]) ∧
      Step.Maps ⟨.decodeUrl, .each path, output⟩ 0 state [.string "a%20b", .null] ∧
      ∃ each, Path.parse "res.ids[*]" = .ok each ∧
        Step.advance ⟨.decodeUrl, .each each, output⟩ 0 state =
          Step.advance ⟨.decodeUrl, .each path, output⟩ 0 state := by
  intro path state output
  have hparse : Path.parse "res.ids" = .ok path := by cbv
  have hdotted : path.IsDotted := by
    refine ⟨by decide, List.forall_mem_cons.2 ⟨⟨_, rfl⟩, List.forall_mem_cons.2 ⟨⟨_, rfl⟩, ?_⟩⟩⟩
    exact fun _ hmem => absurd hmem List.not_mem_nil
  have hfound : path.queryCollapsed state = some (.array [.string "a%20b", .null]) := rfl
  obtain ⟨each, heach, hstep⟩ := advance_each hparse hdotted
  obtain ⟨hmaps, hsame, -⟩ := hstep .decodeUrl output 0 state _ hfound
  exact ⟨hparse, hdotted, hfound, hmaps, each, heach, hsame (Nat.le_refl 2)⟩

/-- A single text in an array is taken for the array itself, and refused. -/
theorem decode_single_item :
    let r : Request := { endpointUrl := "https://t.example/c", path := "/c", content := some "x" }
    let body : Path := ⟨"body", [.child "body"]⟩
    let ids : Path := ⟨"res.ids", [.child "res", .child "ids"]⟩
    let each : Path := ⟨"res.ids[*]", [.child "res", .child "ids", .wildcard]⟩
    let first : Step := ⟨.ensureArray, .single body, ⟨"res.ids", [.name "res", .name "ids"]⟩⟩
    let output : Target := ⟨"res.out", [.name "res", .name "out"]⟩
    Path.parse "body" = .ok body ∧ Path.parse "res.ids" = .ok ids ∧
      Path.parse "res.ids[*]" = .ok each ∧
      r.decode [first, ⟨.decodeUrl, .each ids, output⟩] =
        .ok (.object [("ids", .array [.string "x"]), ("out", .array [.string "x"])]) ∧
      r.decode [first, ⟨.decodeUrl, .each each, output⟩] =
        .error (.notAnArray 1 "res.ids[*]" .string) := by
  intro r body ids each first output
  refine ⟨by cbv, by cbv, by cbv, by cbv, by cbv⟩

end Step

end TrackerTraffic
