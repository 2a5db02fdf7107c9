import TrackerTraffic.Proofs.CatalogWork

/-!
# The invariant of catalogs

Whatever calls are made, in whatever order and whether they fail or not, a catalog's
ids are distinct and its adapters' trackers are listed.  A merge relies on the other
catalog here: only the ids of the two against each other are checked.
-/

namespace TrackerTraffic.Catalog

structure Sound (c : Catalog) : Prop where
  nodup : c.ids.Nodup
  tracked : ∀ a ∈ c.adapters, a.tracker ∈ c.trackers

/-- A catalog that calls make of the empty one; what they merge into it is one as well. -/
inductive Reachable : Catalog → Prop where
  | empty : Reachable Catalog.empty
  | after {c : Catalog} (call : Call) (h : Reachable c)
      (operand : ∀ other, call = .merge other → Reachable other) : Reachable (call.after c)

/-! ### Trackers -/

theorem mem_addTracker {trackers : List Tracker} {t u : Tracker} :
    t ∈ addTracker trackers u ↔ t ∈ trackers ∨ t = u := by
  unfold addTracker
  split
  · next hmem =>
    refine ⟨.inl, ?_⟩
    rintro (ht | rfl)
    · exact ht
    · exact List.contains_iff_mem.1 hmem
  · rw [List.mem_append, List.mem_singleton]

theorem mem_foldl_addTracker {added trackers : List Tracker} {t : Tracker} :
    t ∈ added.foldl addTracker trackers ↔ t ∈ trackers ∨ t ∈ added := by
  induction added generalizing trackers with
  | nil => simp
  | cons u rest ih => rw [List.foldl_cons, ih, mem_addTracker, List.mem_cons, or_assoc]

/-! ### Each call keeps the invariant -/

theorem Describes.sound {entries : List Entry} {c : Catalog} (h : Describes entries c) :
    Sound c := by
  refine ⟨h.nodup, fun a ha => ?_⟩
  have hread : Except.ok a ∈ readAdapters entries := by
    rw [h.adapters]
    exact List.mem_map_of_mem ha
  obtain ⟨e, he, hmem⟩ := List.mem_flatMap.1 hread
  obtain ⟨v, -, hv⟩ := List.mem_map.1 hmem
  rw [h.trackers, tracker_of_read hv]
  exact List.mem_map_of_mem he

theorem Sound.push {c d : Catalog} {a : Adapter} (h : Sound c) (hpush : c.push a = .ok d) :
    Sound d := by
  obtain ⟨hfresh, rfl⟩ := push_eq_ok_iff.1 hpush
  refine ⟨nodup_ids_append_singleton.2 ⟨h.nodup, hfresh⟩, fun b hb => ?_⟩
  rw [mem_addTracker]
  rcases List.mem_append.1 hb with hold | hnew
  · exact .inl (h.tracked b hold)
  · rw [List.mem_singleton.1 hnew]
    exact .inr rfl

theorem Sound.merge {c other d : Catalog} (h : Sound c) (hother : Sound other)
    (hmerge : c.merge other = .ok d) : Sound d := by
  obtain ⟨hdisjoint, rfl⟩ := merge_eq_ok_iff.1 hmerge
  constructor
  · rw [ids, List.map_append]
    refine h.nodup.append hother.nodup ?_
    intro id hc hid
    exact hdisjoint id hid hc
  · intro a ha
    rw [mem_foldl_addTracker]
    rcases List.mem_append.1 ha with hold | hnew
    · exact .inl (h.tracked a hold)
    · exact .inr (hother.tracked a hnew)

theorem Sound.outcome {c d : Catalog} {call : Call} (h : Sound c)
    (operand : ∀ other, call = .merge other → Sound other) (hcall : call.outcome c = .ok d) :
    Sound d := by
  cases call with
  | loadText text =>
    obtain ⟨_, _, -, -, hd⟩ := ofText_eq_ok_iff.1 hcall
    exact hd.sound
  | load document =>
    obtain ⟨_, -, hd⟩ := ofDocument_eq_ok_iff.1 hcall
    exact hd.sound
  | push a => exact h.push hcall
  | merge other => exact h.merge (operand other rfl) hcall
  | clear =>
    obtain rfl := Except.ok.inj hcall
    exact ⟨List.nodup_nil, fun _ ha => by cases ha⟩

theorem Sound.after {c : Catalog} {call : Call} (h : Sound c)
    (operand : ∀ other, call = .merge other → Sound other) : Sound (call.after c) := by
  rw [call.after_eq]
  cases hcall : call.outcome c with
  | ok d => exact h.outcome operand hcall
  | error e => exact h

theorem Reachable.sound {c : Catalog} (h : Reachable c) : Sound c := by
  induction h with
  | empty => exact ⟨List.nodup_nil, fun _ ha => by cases ha⟩
  | after call _ _ ih ihOperand => exact ih.after ihOperand

/-! ### Looking up by id -/

theorem get?_eq_some_iff {c : Catalog} (hnodup : c.ids.Nodup) {i : Nat} {a : Adapter}
    (ha : c.adapters[i]? = some a) (id : String) :
    c.get? id = some a ↔ c.ids[i]? = some id := by
  have hid : c.ids[i]? = some a.id := by rw [ids, List.getElem?_map, ha, Option.map_some]
  rw [hid, Option.some.injEq]
  constructor
  · intro hfound
    have hmatch := List.find?_some hfound
    simpa using hmatch
  · rintro rfl
    have hmem : a ∈ c.adapters := List.mem_of_getElem? ha
    cases hfound : c.get? a.id with
    | none =>
      have hnone := List.find?_eq_none.1 hfound a hmem
      simp at hnone
    | some b =>
      have hmatch := List.find?_some hfound
      have hb : b.id = a.id := by simpa using hmatch
      rw [List.inj_on_of_nodup_map hnodup (List.mem_of_find?_eq_some hfound) hmem hb]

/-- In every catalog that calls can lead to, ids are distinct and so find the adapters at their
positions, trackers of adapters are listed, and calls that fail change nothing: those with an id that
is there already, and those without a document. -/
theorem sound_of_reachable {c : Catalog} (h : Reachable c) :
    c.ids.Nodup ∧
      (∀ (id : String) (i : Nat) (a : Adapter), c.adapters[i]? = some a →
        (c.get? id = some a ↔ c.ids[i]? = some id)) ∧
      (∀ a ∈ c.adapters, a.tracker ∈ c.trackers) ∧
      ∀ call : Call, (call.Refused c → ∃ e, call.work.run c = .error e c) ∧
        ∀ e d, call.work.run c = .error e d → d = c ∧ call.Refused c := by
  have hsound := h.sound
  exact ⟨hsound.nodup, fun id i a ha => get?_eq_some_iff hsound.nodup ha id, hsound.tracked,
    fun call => call.run_work_error⟩

/-- A document is loaded, an adapter is pushed twice, the second time in vain, and another adapter of
its tracker is merged in; to merge that one again fails. -/
theorem sound_load_push_merge :
    let t : Tracker := { slug := "t", name := "T" }
    let a : Adapter := { tracker := t, slug := "a", endpoints := [.exact "e"] }
    let b : Adapter := { tracker := t, slug := "b" }
    let d : Adapter := { tracker := t, slug := "d" }
    let document : Json := .object [("trackers", .array [.object [("slug", .string "t"),
      ("name", .string "T"), ("adapters", .array [.object [("slug", .string "a"),
        ("endpointUrls", .array [.string "e"])]])]])]
    let other := Call.after empty (.push d)
    let pushed := Call.after (Call.after (Call.after empty (.load document)) (.push b)) (.push b)
    let c := Call.after pushed (.merge other)
    Reachable c ∧ c = ⟨[t], [a, b, d]⟩ ∧ c.ids.Nodup ∧ c.get? "t/b" = some b ∧
      b.tracker ∈ c.trackers ∧ ∃ e, (Call.merge other).work.run c = .error e c := by
  intro t a b d document other pushed c
  have hother : Reachable other := .after _ .empty (by rintro _ ⟨⟩)
  have hpushed : Reachable pushed :=
    .after _ (.after _ (.after _ .empty (by rintro _ ⟨⟩)) (by rintro _ ⟨⟩)) (by rintro _ ⟨⟩)
  have hc : Reachable c := .after _ hpushed (by rintro _ ⟨⟩; exact hother)
  have hread : ofDocument document = .ok ⟨[t], [a]⟩ := rfl
  have hcontents : c = ⟨[t], [a, b, d]⟩ := by
    simp [c, pushed, other, Call.after_eq, Call.outcome, hread, push, merge, empty, addTracker, ids,
      Adapter.id, a, b, d, t]
  obtain ⟨hnodup, hget, htracked, hfails⟩ := sound_of_reachable hc
  have hb : c.adapters[1]? = some b := by rw [hcontents]; rfl
  have hid : c.ids[1]? = some "t/b" := by rw [hcontents]; rfl
  refine ⟨hc, hcontents, hnodup, (hget "t/b" 1 b hb).2 hid, htracked b (List.mem_of_getElem? hb),
    (hfails (.merge other)).1 ⟨"t/d", ?_, ?_⟩⟩
  · decide +kernel
  · rw [hcontents]
    decide +kernel

end TrackerTraffic.Catalog
