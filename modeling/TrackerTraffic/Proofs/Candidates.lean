import Mathlib
import TrackerTraffic.Detection.Extraction

/-!
# What extraction finds

The candidates of an adapter are the values at its data paths in a decoded tree, in the
order of declaration and of the query.  Extraction finds exactly the candidates that
count, and a data path with more conditions finds fewer.
-/

namespace TrackerTraffic

/-! ### Blank texts -/

theorem Text.trim_eq_nil_iff {cs : List Char} :
    Text.trim cs = [] ↔ ∀ c ∈ cs, Text.isBlank c = true := by
  have hend : Text.trim cs = [] ↔ ∀ c ∈ Text.trimStart cs, Text.isBlank c = true := by
    rw [Text.trim, Text.trimEnd, List.reverse_eq_nil_iff, List.dropWhile_eq_nil_iff]
    simp only [List.mem_reverse]
  rw [hend, Text.trimStart]
  constructor
  · intro h c hc
    rw [← List.takeWhile_append_dropWhile (p := Text.isBlank) (l := cs)] at hc
    rcases List.mem_append.1 hc with hfront | hrest
    · exact List.mem_takeWhile_imp hfront
    · exact h c hrest
  · intro h c hc
    exact h c ((List.dropWhile_sublist Text.isBlank).subset hc)

/-! ### Values that count -/

/-- The value counts at a data path: it is neither null nor a blank text, and its text meets the
path's conditions. -/
structure DataPath.Counts (d : DataPath) (v : Json) : Prop where
  not_null : v ≠ .null
  not_blank : ∀ s, v = .string s → ∃ c ∈ s.toList, Text.isBlank c = false
  onlyIf : ∀ m, d.onlyIf = some m → m.fits v.text = true
  notIf : ∀ m, d.notIf = some m → m.fits v.text = false

namespace DataPath

theorem admitsText_iff {d : DataPath} {text : String} :
    d.admitsText text = true ↔
      (∀ m, d.onlyIf = some m → m.fits text = true) ∧
        ∀ m, d.notIf = some m → m.fits text = false := by
  rw [admitsText, Bool.and_eq_true]
  cases d.onlyIf <;> cases d.notIf <;> simp

theorem not_isEmpty_trim_iff {cs : List Char} :
    (!(Text.trim cs).isEmpty) = true ↔ ∃ c ∈ cs, Text.isBlank c = false := by
  rw [Bool.not_eq_true', ← Bool.not_eq_true, List.isEmpty_iff, Text.trim_eq_nil_iff]
  push Not
  simp only [Bool.not_eq_true]

theorem admits_iff {d : DataPath} {v : Json} : d.admits v = true ↔ d.Counts v := by
  have hcounts : d.Counts v ↔ v ≠ .null ∧
      (∀ s, v = .string s → ∃ c ∈ s.toList, Text.isBlank c = false) ∧
        d.admitsText v.text = true := by
    rw [admitsText_iff]
    exact ⟨fun h => ⟨h.not_null, h.not_blank, h.onlyIf, h.notIf⟩,
      fun ⟨hnull, hblank, honly, hnot⟩ => ⟨hnull, hblank, honly, hnot⟩⟩
  rw [hcounts]
  cases v with
  | null => simp [admits]
  | string s =>
    rw [admits, Bool.and_eq_true, not_isEmpty_trim_iff]
    simp [Json.text]
  | bool b | number n | array items | object members => simp [admits]

instance (d : DataPath) (v : Json) : Decidable (d.Counts v) := decidable_of_iff _ admits_iff

/-- A number, a truth value or a container counts wherever no condition is set. -/
theorem counts_of_kind {d : DataPath} {v : Json} (honly : d.onlyIf = none) (hnot : d.notIf = none)
    (hnull : v.kind ≠ .null) (hstring : v.kind ≠ .string) : d.Counts v where
  not_null := by
    rintro rfl
    exact hnull rfl
  not_blank := by
    rintro s rfl
    exact absurd rfl hstring
  onlyIf m hm := by
    rw [honly] at hm
    cases hm
  notIf m hm := by
    rw [hnot] at hm
    cases hm

/-- The data path is the other one with further conditions. -/
structure Narrows (narrow wide : DataPath) : Prop where
  context : narrow.context = wide.context
  path : narrow.path = wide.path
  reasoning : narrow.reasoning = wide.reasoning
  onlyIf : ∀ m, wide.onlyIf = some m → narrow.onlyIf = some m
  notIf : ∀ m, wide.notIf = some m → narrow.notIf = some m

theorem Narrows.counts {narrow wide : DataPath} (h : narrow.Narrows wide) {v : Json}
    (hv : narrow.Counts v) : wide.Counts v where
  not_null := hv.not_null
  not_blank := hv.not_blank
  onlyIf m hm := hv.onlyIf m (h.onlyIf m hm)
  notIf m hm := hv.notIf m (h.notIf m hm)

/-- What the path leads to in the member of a decoded tree that its context names. -/
def reached (d : DataPath) : Json → List Json
  | .object members => ((Json.lookup d.context.name members).map d.path.query).getD []
  | _ => []

theorem values_eq (d : DataPath) (decoded : Json) :
    d.values decoded = (d.reached decoded).filter fun v => d.Counts v := by
  have hcounts : ∀ v, d.admits v = decide (d.Counts v) := by
    intro v
    rw [Bool.eq_iff_iff, admits_iff, decide_eq_true_iff]
  rw [values, funext hcounts]
  cases decoded with
  | object members =>
    rw [scope?, reached]
    cases Json.lookup d.context.name members with
    | none => rfl
    | some scope => rfl
  | null | bool b | number n | string s | array items => rfl

end DataPath

/-! ### Candidates -/

/-- A value that stands at a data path of a property, whether or not it counts. -/
structure Candidate where
  property : Property
  place : DataPath
  value : Json

namespace Candidate

def Counts (c : Candidate) : Prop := c.place.Counts c.value

instance (c : Candidate) : Decidable c.Counts := inferInstanceAs (Decidable (c.place.Counts c.value))

/-- The match that a candidate becomes. -/
def toMatch (adapter : String) (c : Candidate) : Match where
  adapter := some adapter
  property := c.property
  context := c.place.context
  path := c.place.path.source
  reasoning := c.place.reasoning
  value := c.value

end Candidate

namespace Adapter

/-- The data paths with their properties, in the order of declaration. -/
def declared (a : Adapter) : List (Property × DataPath) :=
  a.dataPaths.flatMap fun entry => entry.2.map fun d => (entry.1, d)

def candidatesAt (decoded : Json) (entry : Property × DataPath) : List Candidate :=
  (entry.2.reached decoded).map fun v => ⟨entry.1, entry.2, v⟩

/-- The candidates in a decoded tree, data path by data path. -/
def candidates (a : Adapter) (decoded : Json) : List Candidate :=
  a.declared.flatMap (candidatesAt decoded)

theorem matchesAt_eq (a : Adapter) (decoded : Json) (property : Property) (d : DataPath) :
    a.matchesAt decoded property d =
      ((candidatesAt decoded (property, d)).filter fun c => c.Counts).map
        (Candidate.toMatch a.id) := by
  rw [matchesAt, DataPath.values_eq, candidatesAt, List.filter_map, List.map_map]
  rfl

theorem matchesIn_eq_flatMap (a : Adapter) (decoded : Json) :
    a.matchesIn decoded = a.declared.flatMap fun entry => a.matchesAt decoded entry.1 entry.2 := by
  rw [matchesIn, declared, List.flatMap_assoc]
  simp only [List.flatMap_map]

/-- The matches are the candidates that count, each as it was found. -/
theorem matchesIn_eq (a : Adapter) (decoded : Json) :
    a.matchesIn decoded =
      ((a.candidates decoded).filter fun c => c.Counts).map (Candidate.toMatch a.id) := by
  rw [matchesIn_eq_flatMap, candidates, List.filter_flatMap, List.map_flatMap]
  simp only [matchesAt_eq]

/-! ### Further conditions -/

/-- The adapter is the other one with further conditions at its data paths. -/
structure Narrows (narrow wide : Adapter) : Prop where
  id : narrow.id = wide.id
  steps : narrow.steps = wide.steps
  declared : List.Forall₂ (fun x y => x.1 = y.1 ∧ x.2.Narrows y.2) narrow.declared wide.declared

theorem matchesAt_sublist {narrow wide : Adapter} (hid : narrow.id = wide.id) (decoded : Json)
    (property : Property) {d e : DataPath} (h : d.Narrows e) :
    (narrow.matchesAt decoded property d).Sublist (wide.matchesAt decoded property e) := by
  have hreached : d.reached decoded = e.reached decoded := by
    cases decoded with
    | object members => rw [DataPath.reached, DataPath.reached, h.context, h.path]
    | null | bool b | number n | string s | array items => rfl
  have hvalues : (d.values decoded).Sublist (e.values decoded) := by
    rw [DataPath.values_eq, DataPath.values_eq, hreached]
    apply List.monotone_filter_right
    intro v hv
    exact decide_eq_true (h.counts (of_decide_eq_true hv))
  rw [matchesAt, matchesAt, hid, h.context, h.path, h.reasoning]
  exact hvalues.map _

theorem flatMap_matchesAt_sublist {narrow wide : Adapter} (hid : narrow.id = wide.id)
    (decoded : Json) {xs ys : List (Property × DataPath)}
    (h : List.Forall₂ (fun x y => x.1 = y.1 ∧ x.2.Narrows y.2) xs ys) :
    (xs.flatMap fun x => narrow.matchesAt decoded x.1 x.2).Sublist
      (ys.flatMap fun y => wide.matchesAt decoded y.1 y.2) := by
  -- Data path by data path; what the paths behind it find does not matter to it.
  induction h with
  | nil => exact .slnil
  | @cons x y _ _ hxy _ ih =>
    rw [List.flatMap_cons, List.flatMap_cons, hxy.1]
    exact (matchesAt_sublist hid decoded y.1 hxy.2).append ih

/-- Further conditions only remove matches. -/
theorem Narrows.matchesIn_sublist {narrow wide : Adapter} (h : narrow.Narrows wide)
    (decoded : Json) : (narrow.matchesIn decoded).Sublist (wide.matchesIn decoded) := by
  rw [matchesIn_eq_flatMap, matchesIn_eq_flatMap]
  exact flatMap_matchesAt_sublist h.id decoded h.declared

/-! ### Extraction -/

theorem extract_of_ok {a : Adapter} {r : Request} {decoded : Json}
    (h : r.decode a.steps = .ok decoded) : a.extract r = .ok (a.matchesIn decoded) := by
  rw [extract, h]
  rfl

theorem extract_of_error {a : Adapter} {r : Request} {e : DecodeError}
    (h : r.decode a.steps = .error e) : a.extract r = .error e := by
  rw [extract, h]
  rfl

/-- Further conditions do not change how an extraction fails, and only remove matches. -/
theorem Narrows.extract {narrow wide : Adapter} (h : narrow.Narrows wide) (r : Request) :
    (∀ e, wide.extract r = .error e → narrow.extract r = .error e) ∧
      ∀ found, wide.extract r = .ok found →
        ∃ fewer, narrow.extract r = .ok fewer ∧ fewer.Sublist found := by
  have hsteps : r.decode narrow.steps = r.decode wide.steps := by rw [h.steps]
  cases hdecode : r.decode wide.steps with
  | error e =>
    rw [hdecode] at hsteps
    rw [extract_of_error hdecode, extract_of_error hsteps]
    exact ⟨fun _ he => he, fun _ hfound => (by cases hfound)⟩
  | ok decoded =>
    rw [hdecode] at hsteps
    rw [extract_of_ok hdecode, extract_of_ok hsteps]
    refine ⟨fun _ he => (by cases he), fun found hfound => ⟨_, rfl, ?_⟩⟩
    rw [← Except.ok.inj hfound]
    exact h.matchesIn_sublist decoded

/-- Extraction fails as the decoding does.  Otherwise its matches are exactly the candidates that
count, in order; among them every number, truth value and container at a data path without
conditions.  An adapter with further conditions fails alike, and finds the same without some. -/
theorem extract_candidates (a : Adapter) (r : Request) :
    (∀ e, r.decode a.steps = .error e → a.extract r = .error e) ∧
    (∀ decoded, r.decode a.steps = .ok decoded → ∃ found,
      a.extract r = .ok found ∧
      found = ((a.candidates decoded).filter fun c => c.Counts).map (Candidate.toMatch a.id) ∧
      ∀ c ∈ a.candidates decoded, c.place.onlyIf = none → c.place.notIf = none →
        c.value.kind ≠ .null → c.value.kind ≠ .string → c.toMatch a.id ∈ found) ∧
    ∀ narrow : Adapter, narrow.Narrows a →
      (∀ e, a.extract r = .error e → narrow.extract r = .error e) ∧
      ∀ found, a.extract r = .ok found →
        ∃ fewer, narrow.extract r = .ok fewer ∧ fewer.Sublist found := by
  refine ⟨fun e => extract_of_error, fun decoded hdecode => ?_, fun narrow h => h.extract r⟩
  refine ⟨_, extract_of_ok hdecode, a.matchesIn_eq decoded, fun c hc honly hnot hnull hstr => ?_⟩
  have hcounts : c.Counts := DataPath.counts_of_kind honly hnot hnull hstr
  rw [matchesIn_eq]
  exact List.mem_map_of_mem (List.mem_filter.2 ⟨hc, decide_eq_true hcounts⟩)

end Adapter

end TrackerTraffic
