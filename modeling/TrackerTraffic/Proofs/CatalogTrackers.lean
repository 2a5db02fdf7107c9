import TrackerTraffic.Proofs.CatalogInvariant

/-!
# Trackers of catalogs

Trackers that are added one after another, the new ones only, are the first occurrences
of all.  So pushing and merging never list a tracker twice; a document lists one for
every entry, equal or not, and its repetitions last until the catalog is replaced or
emptied.
-/

namespace TrackerTraffic.Catalog

/-! ### First occurrences -/

theorem nodup_addTracker {trackers : List Tracker} {t : Tracker} :
    (addTracker trackers t).Nodup ↔ trackers.Nodup := by
  unfold addTracker
  split
  · rfl
  · next hfresh =>
    rw [List.nodup_append_comm, List.singleton_append, List.nodup_cons]
    exact and_iff_right (mt List.contains_iff_mem.2 hfresh)

theorem nodup_foldl_addTracker {added trackers : List Tracker} :
    (added.foldl addTracker trackers).Nodup ↔ trackers.Nodup := by
  induction added generalizing trackers with
  | nil => rfl
  | cons t rest ih => rw [List.foldl_cons, ih, nodup_addTracker]

theorem foldl_addTracker_nil (trackers : List Tracker) :
    trackers.foldl addTracker [] = trackers.eraseDups := by
  induction trackers using List.reverseRecOn with
  | nil => rfl
  | append_singleton front t ih =>
    rw [List.foldl_append, List.foldl_cons, List.foldl_nil, ih, List.eraseDups_append]
    by_cases hmem : t ∈ front
    · simp [addTracker, List.removeAll, hmem]
    · simp [addTracker, List.removeAll, hmem, List.eraseDups_cons]

theorem foldl_addTracker_eraseDups (trackers added : List Tracker) :
    added.foldl addTracker trackers.eraseDups = (trackers ++ added).eraseDups := by
  rw [← foldl_addTracker_nil, ← foldl_addTracker_nil, List.foldl_append]

theorem foldl_addTracker_of_nodup {trackers : List Tracker} (h : trackers.Nodup) :
    trackers.foldl addTracker [] = trackers := by
  induction trackers using List.reverseRecOn with
  | nil => rfl
  | append_singleton front t ih =>
    rw [List.nodup_append_comm, List.singleton_append, List.nodup_cons] at h
    rw [List.foldl_append, List.foldl_cons, List.foldl_nil, ih h.2]
    exact if_neg (mt List.contains_iff_mem.1 h.1)

theorem eraseDups_eq_self_iff {trackers : List Tracker} :
    trackers.eraseDups = trackers ↔ trackers.Nodup := by
  rw [← foldl_addTracker_nil]
  refine ⟨fun h => ?_, foldl_addTracker_of_nodup⟩
  rw [← h]
  exact nodup_foldl_addTracker.2 List.nodup_nil

/-! ### Calls -/

/-- The catalog that calls make of the empty one. -/
def afterAll (calls : List Call) : Catalog := calls.foldl Call.after empty

/-- The trackers that a call puts in the place of all others; none if it only adds to them. -/
def Call.listed? : Call → Option (List Tracker)
  | .loadText text => (ofText text).toOption.map Catalog.trackers
  | .load document => (ofDocument document).toOption.map Catalog.trackers
  | .push _ => none
  | .merge _ => none
  | .clear => some []

/-- The trackers that were put in the place of all others last. -/
def lastListed (calls : List Call) : List Tracker :=
  calls.foldl (fun trackers call => call.listed?.getD trackers) []

theorem nodup_trackers_after (call : Call) (c : Catalog) :
    (call.after c).trackers.Nodup ↔ (call.listed?.getD c.trackers).Nodup := by
  rw [call.after_eq]
  cases call with
  | loadText text =>
    simp only [Call.outcome, Call.listed?]
    cases ofText text <;> rfl
  | load document =>
    simp only [Call.outcome, Call.listed?]
    cases ofDocument document <;> rfl
  | push a =>
    simp only [Call.outcome, Call.listed?, Option.getD_none]
    cases hpush : c.push a with
    | error e => rfl
    | ok d =>
      obtain ⟨-, rfl⟩ := push_eq_ok_iff.1 hpush
      exact nodup_addTracker
  | merge other =>
    simp only [Call.outcome, Call.listed?, Option.getD_none]
    cases hmerge : c.merge other with
    | error e => rfl
    | ok d =>
      obtain ⟨-, rfl⟩ := merge_eq_ok_iff.1 hmerge
      exact nodup_foldl_addTracker
  | clear => rfl

theorem nodup_trackers_afterAll (calls : List Call) :
    (afterAll calls).trackers.Nodup ↔ (lastListed calls).Nodup := by
  induction calls using List.reverseRecOn with
  | nil => rfl
  | append_singleton front call ih =>
    simp only [afterAll, lastListed, List.foldl_append, List.foldl_cons, List.foldl_nil] at ih ⊢
    rw [nodup_trackers_after]
    cases call.listed? with
    | some trackers => rfl
    | none => exact ih

theorem trackers_of_document {v : Json} {d : Catalog} (h : ofDocument v = .ok d) :
    ∃ entries, readEntries v = .ok entries ∧ d.trackers = entries.map Entry.tracker := by
  obtain ⟨entries, hread, hd⟩ := ofDocument_eq_ok_iff.1 h
  exact ⟨entries, hread, hd.trackers⟩

theorem trackers_of_merge_empty (c : Catalog) :
    ∃ merged, empty.merge c = .ok merged ∧ merged.trackers = c.trackers.eraseDups :=
  ⟨⟨c.trackers.foldl addTracker [], [] ++ c.adapters⟩,
    merge_eq_ok_iff.2 ⟨fun _ _ => List.not_mem_nil, rfl⟩, foldl_addTracker_nil c.trackers⟩

/-- A catalog lists no tracker twice exactly if the document that was put in the place of all others
last, which lists one tracker an entry, repeats none.  A catalog that is merged into the empty one
gives the first occurrences of its trackers, which are the same ones exactly if none is repeated. -/
theorem nodup_trackers_iff (calls : List Call) (c : Catalog) :
    ((afterAll calls).trackers.Nodup ↔ (lastListed calls).Nodup) ∧
      (∀ v, ofDocument v = .ok c →
        ∃ entries, readEntries v = .ok entries ∧ c.trackers = entries.map Entry.tracker) ∧
      ∃ merged, empty.merge c = .ok merged ∧ merged.trackers = c.trackers.eraseDups ∧
        (merged.trackers = c.trackers ↔ c.trackers.Nodup) := by
  refine ⟨nodup_trackers_afterAll calls, fun _ => trackers_of_document, ?_⟩
  obtain ⟨merged, hmerge, htrackers⟩ := trackers_of_merge_empty c
  exact ⟨merged, hmerge, htrackers, by rw [htrackers, eraseDups_eq_self_iff]⟩

/-- Two entries with one tracker: the document's catalog lists it twice, and the catalog merged into
the empty one lists it once. -/
theorem repeated_tracker :
    let entry : Json := .object [("slug", .string "t"), ("name", .string "T")]
    let t : Tracker := { slug := "t", name := "T" }
    ∃ c, Reachable c ∧ ofDocument (.object [("trackers", .array [entry, entry])]) = .ok c ∧
      c.trackers = [t, t] ∧ ¬ c.trackers.Nodup ∧
        ∃ merged, empty.merge c = .ok merged ∧ merged.trackers = [t] := by
  intro entry t
  have hread : ofDocument (.object [("trackers", .array [entry, entry])]) = .ok ⟨[t, t], []⟩ := rfl
  have hafter : Call.after empty (.load (.object [("trackers", .array [entry, entry])])) =
      ⟨[t, t], []⟩ := by rw [Call.after_eq, Call.outcome, hread]
  have hreachable : Reachable ⟨[t, t], []⟩ := by
    rw [← hafter]
    exact .after _ .empty fun _ h => by cases h
  exact ⟨_, hreachable, hread, rfl, by simp, ⟨[t], []⟩, rfl, rfl⟩

end TrackerTraffic.Catalog
