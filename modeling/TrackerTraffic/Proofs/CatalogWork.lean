import TrackerTraffic.Proofs.CatalogDocument

/-!
# Work on catalogs

Work in place comes to what the operations on values say, and every check of a piece
of work stands in front of its writes: a call that fails leaves the catalog as it was.
-/

namespace TrackerTraffic.Catalog

/-! ### Work as operations on values -/

/-- Work that answers and leaves a new catalog, or that fails and leaves the old one. -/
def settled {α : Type} (answer : α) (c : Catalog) :
    Except CatalogError Catalog → EStateM.Result CatalogError Catalog α
  | .ok d => .ok answer d
  | .error e => .error e c

namespace Work

theorem run_addTracker (t : Tracker) (c : Catalog) :
    (addTracker t).run c = .ok () { c with trackers := Catalog.addTracker c.trackers t } := by
  unfold Catalog.addTracker
  by_cases hmem : c.trackers.contains t = true
  · have hrun : (addTracker t).run c = .ok () c := by
      simp only [addTracker, EStateM.run_bind, EStateM.run_get, if_pos hmem]
      rfl
    rw [hrun, if_pos hmem]
  · simp only [addTracker, EStateM.run_bind, EStateM.run_get, if_neg hmem]
    rfl

theorem run_forM_addTracker (trackers : List Tracker) (c : Catalog) :
    (trackers.forM addTracker).run c =
      .ok () { c with trackers := trackers.foldl Catalog.addTracker c.trackers } := by
  induction trackers generalizing c with
  | nil => rfl
  | cons t rest ih =>
    show (addTracker t >>= fun _ => rest.forM addTracker).run c = _
    rw [EStateM.run_bind, run_addTracker]
    exact ih _

theorem run_push (a : Adapter) (c : Catalog) : (push a).run c = settled () c (c.push a) := by
  unfold Catalog.push
  by_cases hmem : c.ids.contains a.id = true
  · simp only [push, EStateM.run_bind, EStateM.run_get, if_pos hmem]
    rfl
  · simp only [push, EStateM.run_bind, EStateM.run_get, if_neg hmem, run_addTracker]
    rfl

theorem run_merge (other c : Catalog) :
    (merge other).run c = settled other.adapters.length c (c.merge other) := by
  unfold Catalog.merge
  simp only [merge, EStateM.run_bind, EStateM.run_get]
  cases other.ids.find? c.ids.contains with
  | some id => rfl
  | none =>
    simp only [EStateM.run_bind, run_forM_addTracker]
    rfl

theorem run_replace (read : Except CatalogError Catalog) (c : Catalog) :
    (replace read).run c = settled () c read := by
  cases read <;> rfl

theorem run_mergeText (text : String) (c : Catalog) :
    (mergeText text).run c =
      match ofText text with
      | .ok other => settled other.adapters.length c (c.merge other)
      | .error e => .error e c := by
  unfold mergeText
  cases ofText text with
  | ok other => exact run_merge other c
  | error e => rfl

end Work

namespace Call

/-- The catalog that a call is to lead to. -/
def outcome (c : Catalog) : Call → Except CatalogError Catalog
  | .loadText text => ofText text
  | .load document => ofDocument document
  | .push a => c.push a
  | .merge other => c.merge other
  | .clear => .ok empty

theorem run_work (call : Call) (c : Catalog) :
    call.work.run c = settled () c (call.outcome c) := by
  cases call with
  | loadText text =>
    cases hread : Json.read? text with
    | none =>
      simp only [work, outcome, ofText, hread]
      rfl
    | some v => simp only [work, outcome, ofText, hread, Loading.ofDocument_eq, Work.run_replace]
  | load document => simp only [work, outcome, Loading.ofDocument_eq, Work.run_replace]
  | push a => exact Work.run_push a c
  | merge other =>
    simp only [work, outcome, EStateM.run_bind, Work.run_merge]
    cases c.merge other <;> rfl
  | clear => rfl

theorem after_eq (call : Call) (c : Catalog) :
    call.after c = match call.outcome c with
      | .ok d => d
      | .error _ => c := by
  rw [after, run_work]
  cases call.outcome c <;> rfl

/-! ### Calls that fail -/

/-- Why a call fails: there is no document to read, or an id is there already. -/
def Refused (c : Catalog) : Call → Prop
  | .loadText text => ¬ ∃ d, IsDocument text d
  | .load document => ¬ ∃ entries d, readEntries document = .ok entries ∧ Describes entries d
  | .push a => a.id ∈ c.ids
  | .merge other => ∃ id ∈ other.ids, id ∈ c.ids
  | .clear => False

end Call

theorem error_iff_not_ok {ε α : Type} {x : Except ε α} : (∃ e, x = .error e) ↔ ¬ ∃ a, x = .ok a := by
  cases x <;> simp

theorem push_eq_ok_iff {c d : Catalog} {a : Adapter} :
    c.push a = .ok d ↔
      a.id ∉ c.ids ∧ d = ⟨addTracker c.trackers a.tracker, c.adapters ++ [a]⟩ := by
  by_cases hmem : a.id ∈ c.ids
  · simp [push, hmem]
  · simp [push, hmem, eq_comm]

theorem merge_eq_ok_iff {c other d : Catalog} :
    c.merge other = .ok d ↔ (∀ id ∈ other.ids, id ∉ c.ids) ∧
      d = ⟨other.trackers.foldl addTracker c.trackers, c.adapters ++ other.adapters⟩ := by
  unfold merge
  cases hfind : other.ids.find? c.ids.contains with
  | some id =>
    have hshared := List.find?_some hfind
    have hmem := List.mem_of_find?_eq_some hfind
    refine iff_of_false (fun h => by cases h) fun h => h.1 id hmem (by simpa using hshared)
  | none =>
    rw [List.find?_eq_none] at hfind
    have hdisjoint : ∀ id ∈ other.ids, id ∉ c.ids := by simpa using hfind
    rw [Except.ok.injEq, eq_comm, and_iff_right hdisjoint]

namespace Call

theorem outcome_eq_error_iff {call : Call} {c : Catalog} :
    (∃ e, call.outcome c = .error e) ↔ call.Refused c := by
  cases call with
  | loadText text =>
    rw [error_iff_not_ok]
    simp only [outcome, Refused, ofText_eq_ok_iff]
  | load document =>
    rw [error_iff_not_ok]
    simp only [outcome, Refused, ofDocument_eq_ok_iff]
    rw [exists_comm]
  | push a =>
    rw [error_iff_not_ok]
    simp [outcome, Refused, push_eq_ok_iff]
  | merge other =>
    rw [error_iff_not_ok]
    simp [outcome, Refused, merge_eq_ok_iff]
  | clear => simp [outcome, Refused]

/-- A call fails exactly if it is refused, and it then leaves the catalog as it was. -/
theorem run_work_error {call : Call} {c : Catalog} :
    (call.Refused c → ∃ e, call.work.run c = .error e c) ∧
      ∀ e d, call.work.run c = .error e d → d = c ∧ call.Refused c := by
  rw [run_work]
  constructor
  · intro h
    obtain ⟨e, he⟩ := outcome_eq_error_iff.2 h
    exact ⟨e, by rw [he]; rfl⟩
  · intro e d h
    cases houtcome : call.outcome c with
    | ok after => rw [houtcome] at h; cases h
    | error cause =>
      rw [houtcome] at h
      obtain ⟨rfl, rfl⟩ := EStateM.Result.error.inj h
      exact ⟨rfl, outcome_eq_error_iff.1 ⟨cause, houtcome⟩⟩

end Call

end TrackerTraffic.Catalog
