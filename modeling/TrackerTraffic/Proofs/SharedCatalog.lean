import TrackerTraffic.Catalog.Shared
import TrackerTraffic.Proofs.CatalogTrackers

/-!
# The shared catalog over whole runs

At every moment the shared catalog holds the documents whose loading was answered with a
number since it was last emptied: their adapters one behind the other, and the first
occurrences of their trackers.
-/

namespace TrackerTraffic.Catalog

/-! ### One operation -/

/-- Loading a text is the work of adding it: what the work leaves behind is kept. -/
theorem step_load (c : Catalog) (text : String) :
    c.step (.load text) =
      match (Work.mergeText text).run c with
      | .ok added d => (d, .loaded added)
      | .error e d => (d, .refused e) := by
  rw [Work.run_mergeText, step]
  cases ofText text with
  | error e => rfl
  | ok other =>
    simp only
    cases c.merge other <;> rfl

/-- Why a text is not loaded: it is no document, or one of its ids is there already. -/
def Unloadable (c : Catalog) (text : String) : Prop :=
  (¬ ∃ doc, IsDocument text doc) ∨ ∃ doc, IsDocument text doc ∧ ∃ id ∈ doc.ids, id ∈ c.ids

/-- What loading a text does to a catalog. -/
inductive Loads (c : Catalog) (text : String) : Catalog × Outcome → Prop where
  | loaded {doc : Catalog} (hdoc : IsDocument text doc) (hnew : ∀ id ∈ doc.ids, id ∉ c.ids) :
    Loads c text (⟨doc.trackers.foldl addTracker c.trackers, c.adapters ++ doc.adapters⟩,
      .loaded doc.adapters.length)
  | refused (e : CatalogError) (h : Unloadable c text) : Loads c text (c, .refused e)

theorem loads_step (c : Catalog) (text : String) : Loads c text (c.step (.load text)) := by
  rw [step]
  cases hread : ofText text with
  | error e =>
    refine .refused e (.inl ?_)
    rintro ⟨doc, hdoc⟩
    rw [ofText_eq_ok_iff.2 hdoc] at hread
    cases hread
  | ok doc =>
    have hdoc := ofText_eq_ok_iff.1 hread
    simp only
    cases hmerge : c.merge doc with
    | ok merged =>
      obtain ⟨hnew, rfl⟩ := merge_eq_ok_iff.1 hmerge
      exact .loaded hdoc hnew
    | error e =>
      have hshared : ¬ ∀ id ∈ doc.ids, id ∉ c.ids := by
        intro hnew
        rw [merge_eq_ok_iff.2 ⟨hnew, rfl⟩] at hmerge
        cases hmerge
      exact .refused e (.inr ⟨doc, hdoc, by simpa using hshared⟩)

theorem IsDocument.unique {text : String} {c d : Catalog} (hc : IsDocument text c)
    (hd : IsDocument text d) : c = d := by
  rw [← ofText_eq_ok_iff] at hc hd
  exact Except.ok.inj (hc.symm.trans hd)

theorem Loads.added {c d : Catalog} {text : String} {added : Nat}
    (h : Loads c text (d, .loaded added)) :
    ∃ doc, IsDocument text doc ∧ added = doc.adapters.length := by
  cases h with
  | loaded hdoc _ => exact ⟨_, hdoc, rfl⟩

theorem Loads.refused_iff {c d : Catalog} {text : String} {outcome : Outcome}
    (h : Loads c text (d, outcome)) : (∃ e, outcome = .refused e) ↔ Unloadable c text := by
  cases h with
  | @loaded doc hdoc hnew =>
    refine iff_of_false (by rintro ⟨e, he⟩; cases he) ?_
    rintro (hnone | ⟨other, hother, id, hid, hshared⟩)
    · exact hnone ⟨doc, hdoc⟩
    · obtain rfl := hdoc.unique hother
      exact hnew id hid hshared
  | refused e hunloadable => exact iff_of_true ⟨e, rfl⟩ hunloadable

theorem Loads.unchanged {c d : Catalog} {text : String} {e : CatalogError}
    (h : Loads c text (d, .refused e)) : d = c := by
  cases h with
  | refused _ _ => rfl

/-! ### Runs -/

/-- The catalog after operations on the empty one. -/
def afterRun (operations : List Operation) : Catalog :=
  operations.foldl (fun c operation => (c.step operation).1) empty

theorem afterRun_append_singleton (front : List Operation) (operation : Operation) :
    afterRun (front ++ [operation]) = ((afterRun front).step operation).1 := by
  rw [afterRun, List.foldl_append, List.foldl_cons, List.foldl_nil, ← afterRun]

theorem length_run (c : Catalog) (operations : List Operation) :
    (run c operations).length = operations.length := by
  induction operations generalizing c with
  | nil => rfl
  | cons operation rest ih => rw [run, List.length_cons, ih, List.length_cons]

theorem run_append (c : Catalog) (front back : List Operation) :
    run c (front ++ back) = run c front ++
      run (front.foldl (fun c operation => (c.step operation).1) c) back := by
  induction front generalizing c with
  | nil => rfl
  | cons operation rest ih => rw [List.cons_append, run, run, ih, List.cons_append, List.foldl_cons]

/-- The answer at a position is that of a step of the catalog after the operations in front. -/
theorem getElem?_run {operations : List Operation} {i : Nat} {operation : Operation}
    (h : operations[i]? = some operation) :
    (run empty operations)[i]? = some ((afterRun (operations.take i)).step operation) := by
  obtain ⟨hi, hoperation⟩ := List.getElem?_eq_some_iff.1 h
  have hsplit : operations = operations.take i ++ operation :: operations.drop (i + 1) := by
    rw [← hoperation, List.getElem_cons_drop, List.take_append_drop]
  have hlength : (run empty (operations.take i)).length = i := by
    rw [length_run, List.length_take, Nat.min_eq_left (Nat.le_of_lt hi)]
  calc (run empty operations)[i]?
      = (run empty (operations.take i) ++
          run (afterRun (operations.take i)) (operation :: operations.drop (i + 1)))[i]? := by
        rw [afterRun, ← run_append, ← hsplit]
    _ = (run (afterRun (operations.take i)) (operation :: operations.drop (i + 1)))[0]? := by
        rw [List.getElem?_append_right hlength.le, hlength, Nat.sub_self]
    _ = some ((afterRun (operations.take i)).step operation) := by
        rw [run, List.getElem?_cons_zero]

/-- Operations with their answers. -/
def history (operations : List Operation) : List (Operation × Outcome) :=
  operations.zip ((run empty operations).map Prod.snd)

/-- The texts in the catalog after one more operation and its answer. -/
def remember (texts : List String) : Operation × Outcome → List String
  | (.load text, .loaded _) => texts ++ [text]
  | (.load _, _) => texts
  | (.clear, _) => []

/-- The texts whose loading was answered with a number since the catalog was last emptied. -/
def loadedTexts (operations : List Operation) : List String :=
  (history operations).foldl remember []

theorem loadedTexts_append_singleton (front : List Operation) (operation : Operation) :
    loadedTexts (front ++ [operation]) =
      remember (loadedTexts front) (operation, ((afterRun front).step operation).2) := by
  have hlength : front.length = ((run empty front).map Prod.snd).length := by
    rw [List.length_map, length_run]
  rw [loadedTexts, history, run_append, List.map_append, List.zip_append hlength, List.foldl_append]
  rfl

/-! ### Contents -/

/-- The catalog holds the documents of texts: their adapters in order, and the first occurrences of
their trackers. -/
def Holds (c : Catalog) (texts : List String) : Prop :=
  ∃ docs, List.Forall₂ IsDocument texts docs ∧ c.adapters = docs.flatMap Catalog.adapters ∧
    c.trackers = (docs.flatMap Catalog.trackers).eraseDups

theorem Holds.step {c : Catalog} {texts : List String} (h : Holds c texts)
    (operation : Operation) :
    Holds (c.step operation).1 (remember texts (operation, (c.step operation).2)) := by
  cases operation with
  | clear => exact ⟨[], .nil, rfl, rfl⟩
  | load text =>
    obtain ⟨docs, hdocs, hadapters, htrackers⟩ := h
    have hloads := loads_step c text
    generalize c.step (.load text) = answer at hloads ⊢
    cases hloads with
    | @loaded doc hdoc _ =>
      refine ⟨docs ++ [doc], List.rel_append hdocs (.cons hdoc .nil), ?_, ?_⟩
      · rw [List.flatMap_append, List.flatMap_singleton, ← hadapters]
      · rw [List.flatMap_append, List.flatMap_singleton, ← foldl_addTracker_eraseDups, ← htrackers]
    | refused e _ => exact ⟨docs, hdocs, hadapters, htrackers⟩

theorem holds_afterRun (operations : List Operation) :
    Holds (afterRun operations) (loadedTexts operations) := by
  induction operations using List.reverseRecOn with
  | nil => exact ⟨[], .nil, rfl, rfl⟩
  | append_singleton front operation ih =>
    rw [afterRun_append_singleton, loadedTexts_append_singleton]
    exact ih.step operation

/-- After any operations the shared catalog holds the documents that were loaded since it was last
emptied.  Every load in the run is the work of adding its text: it answers the number of the
document's adapters, or is refused exactly if there is no document or one of its ids is loaded, and
then changes nothing. -/
theorem run_contents (operations : List Operation) :
    (∃ docs, List.Forall₂ IsDocument (loadedTexts operations) docs ∧
        (afterRun operations).adapters = docs.flatMap Catalog.adapters ∧
        (afterRun operations).trackers = (docs.flatMap Catalog.trackers).eraseDups) ∧
      ∀ (i : Nat) (text : String), operations[i]? = some (.load text) →
        ∃ d outcome, (run empty operations)[i]? = some (d, outcome) ∧
          d = afterRun (operations.take (i + 1)) ∧
          (d, outcome) = (match (Work.mergeText text).run (afterRun (operations.take i)) with
            | .ok added left => (left, .loaded added)
            | .error e left => (left, .refused e)) ∧
          (∀ added, outcome = .loaded added →
            ∃ doc, IsDocument text doc ∧ added = doc.adapters.length) ∧
          ((∃ e, outcome = .refused e) ↔ Unloadable (afterRun (operations.take i)) text) ∧
          ∀ e, outcome = .refused e → d = afterRun (operations.take i) := by
  refine ⟨holds_afterRun operations, fun i text hi => ?_⟩
  have hanswer := getElem?_run hi
  have hloads := loads_step (afterRun (operations.take i)) text
  have hwork := step_load (afterRun (operations.take i)) text
  have hafter : afterRun (operations.take (i + 1)) =
      ((afterRun (operations.take i)).step (.load text)).1 := by
    rw [List.take_add_one, hi, Option.toList_some, afterRun_append_singleton]
  generalize (afterRun (operations.take i)).step (.load text) = answer at hanswer hloads hwork hafter
  obtain ⟨d, outcome⟩ := answer
  refine ⟨d, outcome, hanswer, hafter.symm, hwork, ?_, hloads.refused_iff, ?_⟩
  · rintro added rfl
    exact hloads.added
  · rintro e rfl
    exact hloads.unchanged

end TrackerTraffic.Catalog
