import TrackerTraffic.Detection.Processing
import TrackerTraffic.Proofs.CatalogWork

/-!
# The adapter that handles a request

Only the first adapter that accepts a request has a say in what becomes of it, also if
it fails to decode the request: then neither a later adapter nor the search for known
values takes over.
-/

namespace TrackerTraffic

/-! ### The first adapter -/

/-- The adapter is the first of a list that accepts the request. -/
def Adapter.IsFirst (adapters : List Adapter) (r : Request) (a : Adapter) : Prop :=
  a.accepts r = true ∧
    ∃ before after, adapters = before ++ a :: after ∧ ∀ b ∈ before, b.accepts r = false

/-- No adapter of a list accepts the request. -/
def Request.Unhandled (r : Request) (adapters : List Adapter) : Prop :=
  ∀ a ∈ adapters, a.accepts r = false

namespace Adapter

theorem handling?_eq_some_iff {adapters : List Adapter} {r : Request} {a : Adapter} :
    handling? adapters r = some a ↔ IsFirst adapters r a := by
  rw [handling?, List.find?_eq_some_iff_append]
  simp [IsFirst]

theorem handling?_eq_none_iff {adapters : List Adapter} {r : Request} :
    handling? adapters r = none ↔ r.Unhandled adapters := by
  simp [handling?, Request.Unhandled]

theorem IsFirst.of_split {before after : List Adapter} {a : Adapter} {r : Request}
    (hbefore : r.Unhandled before) (ha : a.accepts r = true) :
    IsFirst (before ++ a :: after) r a :=
  ⟨ha, before, after, rfl, hbefore⟩

theorem adapter_of_mem_matchesIn {a : Adapter} {decoded : Json} {m : Match}
    (h : m ∈ a.matchesIn decoded) : m.adapter = some a.id := by
  obtain ⟨entry, -, hentry⟩ := List.mem_flatMap.1 h
  obtain ⟨path, -, hpath⟩ := List.mem_flatMap.1 hentry
  obtain ⟨value, -, rfl⟩ := List.mem_map.1 hpath
  rfl

theorem adapter_of_mem_extract {a : Adapter} {r : Request} {found : List Match} {m : Match}
    (h : a.extract r = .ok found) (hm : m ∈ found) : m.adapter = some a.id := by
  unfold extract at h
  cases hdecode : r.decode a.steps with
  | error e =>
    rw [hdecode] at h
    cases h
  | ok decoded =>
    rw [hdecode] at h
    obtain rfl := Except.ok.inj h
    exact adapter_of_mem_matchesIn hm

end Adapter

theorem Indicators.adapter_of_mem_patternMatchesIn {known : Indicators} {r : Request} {m : Match}
    (h : m ∈ known.patternMatchesIn r) : m.adapter = none := by
  obtain ⟨entry, -, hentry⟩ := List.mem_flatMap.1 h
  obtain ⟨value, -, hvalue⟩ := List.mem_flatMap.1 hentry
  rw [Indicator.patternMatchesOf] at hvalue
  split at hvalue
  · cases hvalue
  · cases hpattern : Indicator.pattern? value with
    | none =>
      rw [hpattern] at hvalue
      cases hvalue
    | some pattern =>
      rw [hpattern] at hvalue
      obtain ⟨part, -, rfl⟩ := List.mem_map.1 hvalue
      rfl

/-! ### Processing -/

namespace Request

theorem process_of_isFirst {r : Request} {adapters : List Adapter} {a : Adapter}
    (h : Adapter.IsFirst adapters r a) (known : Option Indicators) :
    r.process adapters known = (a.extract r).map some := by
  rw [process, Adapter.handling?_eq_some_iff.2 h]

theorem process_of_unhandled {r : Request} {adapters : List Adapter} (h : r.Unhandled adapters)
    (known : Option Indicators) : r.process adapters known = .ok (r.fallback known) := by
  rw [process, Adapter.handling?_eq_none_iff.2 h]

theorem isFirst_or_unhandled (r : Request) (adapters : List Adapter) :
    (∃ a, Adapter.IsFirst adapters r a) ∨ r.Unhandled adapters := by
  cases hfound : Adapter.handling? adapters r with
  | none => exact .inr (Adapter.handling?_eq_none_iff.1 hfound)
  | some a => exact .inl ⟨a, Adapter.handling?_eq_some_iff.1 hfound⟩

theorem adapter_of_mem_process {r : Request} {adapters : List Adapter} {a : Adapter}
    {known : Option Indicators} {found : Option (List Match)} (h : Adapter.IsFirst adapters r a)
    (hfound : r.process adapters known = .ok found) :
    ∃ ms, found = some ms ∧ ∀ m ∈ ms, m.adapter = some a.id := by
  rw [process_of_isFirst h] at hfound
  cases hextract : a.extract r with
  | error e =>
    rw [hextract] at hfound
    cases hfound
  | ok ms =>
    rw [hextract] at hfound
    exact ⟨ms, (Except.ok.inj hfound).symm, fun m hm => Adapter.adapter_of_mem_extract hextract hm⟩

theorem fallback_eq_none_iff {r : Request} {known : Option Indicators} :
    r.fallback known = none ↔ known = none := by
  rw [fallback, Option.map_eq_none_iff]

theorem adapter_of_mem_fallback {r : Request} {known : Option Indicators} {ms : List Match}
    {m : Match} (h : r.fallback known = some ms) (hm : m ∈ ms) : m.adapter = none := by
  obtain ⟨values, -, rfl⟩ := Option.map_eq_some_iff.1 h
  exact Indicators.adapter_of_mem_patternMatchesIn hm

/-- Adapters behind others count for the requests that those do not handle. -/
theorem process_append (r : Request) (front back : List Adapter) (known : Option Indicators) :
    ((∃ a ∈ front, a.accepts r = true) →
        r.process (front ++ back) known = r.process front known) ∧
      (r.Unhandled front → r.process (front ++ back) known = r.process back known) := by
  have happend : Adapter.handling? (front ++ back) r =
      (Adapter.handling? front r).or (Adapter.handling? back r) := List.find?_append
  constructor
  · rintro ⟨a, ha, haccepts⟩
    have hsome : (Adapter.handling? front r).isSome = true :=
      List.find?_isSome.2 ⟨a, ha, haccepts⟩
    obtain ⟨first, hfirst⟩ := Option.isSome_iff_exists.1 hsome
    rw [process, process, happend, hfirst, Option.some_or]
  · intro hfront
    rw [process, process, happend, Adapter.handling?_eq_none_iff.2 hfront, Option.none_or]

/-- What becomes of a request is what its first adapter makes of it, whatever adapters stand behind
it, whatever others in front of it refuse the request, and whatever values are known.  Without such
an adapter nothing fails, nothing is looked for exactly if no values are known, and no match has an
adapter.  So in a merged catalog the adapters added last count for the other requests only. -/
theorem process_by_first_adapter (r : Request) (known : Option Indicators) :
    (∀ (before : List Adapter) (a : Adapter) (after : List Adapter),
      r.Unhandled before → a.accepts r = true →
        r.process (before ++ a :: after) known = (a.extract r).map some ∧
        (∀ found, r.process (before ++ a :: after) known = .ok found →
          ∃ ms, found = some ms ∧ ∀ m ∈ ms, m.adapter = some a.id) ∧
        ∀ before' after' known', r.Unhandled before' →
          r.process (before' ++ a :: after') known' = r.process (before ++ a :: after) known) ∧
    (∀ adapters, r.Unhandled adapters →
      ∃ found, r.process adapters known = .ok found ∧ (found = none ↔ known = none) ∧
        ∀ ms, found = some ms → ∀ m ∈ ms, m.adapter = none) ∧
    ∀ c d merged : Catalog, c.merge d = .ok merged →
      ((∃ a ∈ c.adapters, a.accepts r = true) →
        r.process merged.adapters known = r.process c.adapters known) ∧
      (r.Unhandled c.adapters →
        r.process merged.adapters known = r.process d.adapters known) := by
  refine ⟨fun before a after hbefore ha => ?_, fun adapters hnone => ?_, fun c d merged h => ?_⟩
  · have hfirst : Adapter.IsFirst (before ++ a :: after) r a := .of_split hbefore ha
    refine ⟨process_of_isFirst hfirst known, fun _ => adapter_of_mem_process hfirst, ?_⟩
    intro before' after' known' hbefore'
    rw [process_of_isFirst hfirst, process_of_isFirst (.of_split hbefore' ha)]
  · exact ⟨r.fallback known, process_of_unhandled hnone known, fallback_eq_none_iff,
      fun ms hms m hm => adapter_of_mem_fallback hms hm⟩
  · obtain ⟨-, rfl⟩ := Catalog.merge_eq_ok_iff.1 h
    exact process_append r c.adapters d.adapters known

end Request

end TrackerTraffic
