import Mathlib
import TrackerTraffic.Catalog.InPlace

/-!
# Documents of catalogs

A document is read if all its adapters are and their ids are distinct.  Its catalog
has one tracker an entry, in order, and the adapters of one entry behind those of the
other.  Reading that knows trackers by their entries comes to the same.
-/

namespace TrackerTraffic.Catalog

theorem bind_eq_ok_iff {ε α β : Type} {x : Except ε α} {f : α → Except ε β} {b : β} :
    (x >>= f) = .ok b ↔ ∃ a, x = .ok a ∧ f a = .ok b := by
  cases x with
  | error e => simp [bind, Except.bind]
  | ok a => simp [bind, Except.bind]

/-! ### Adapters of an entry -/

theorem tracker_of_read {t : Tracker} {v : Json} {a : Adapter} (h : Adapter.read t v = .ok a) :
    a.tracker = t := by
  simp only [Adapter.read] at h
  repeat' split at h
  all_goals cases h
  rfl

/-- Adds an adapter as it is written. -/
def addWritten (t : Tracker) (adapters : List Adapter) (v : Json) :
    Except CatalogError (List Adapter) := do
  let a ← (Adapter.read t v).mapError .adapter
  if (adapters.map Adapter.id).contains a.id then .error (.duplicate a.id) else .ok (adapters ++ [a])

theorem addEntry_eq (c : Catalog) (e : Entry) :
    addEntry c e = (e.adapters.foldlM (addWritten e.tracker) c.adapters).map
      fun adapters => ⟨c.trackers ++ [e.tracker], adapters⟩ :=
  rfl

theorem addWritten_eq_ok_iff {t : Tracker} {adapters out : List Adapter} {v : Json} :
    addWritten t adapters v = .ok out ↔
      ∃ a, Adapter.read t v = .ok a ∧ a.id ∉ adapters.map Adapter.id ∧ out = adapters ++ [a] := by
  unfold addWritten
  cases hread : Adapter.read t v with
  | error e => simp [Except.mapError, bind, Except.bind]
  | ok a =>
    simp only [Except.mapError, bind, Except.bind, List.contains_iff_mem, Except.ok.injEq,
      exists_eq_left']
    split
    · next hmem => simp [hmem]
    · next hmem => simp [hmem, eq_comm]

theorem nodup_ids_append_singleton {adapters : List Adapter} {a : Adapter} :
    ((adapters ++ [a]).map Adapter.id).Nodup ↔
      (adapters.map Adapter.id).Nodup ∧ a.id ∉ adapters.map Adapter.id := by
  rw [List.map_append, List.map_singleton, List.nodup_append_comm, List.singleton_append,
    List.nodup_cons, and_comm]

theorem foldlM_addWritten {t : Tracker} {values : List Json} {adapters out : List Adapter}
    (hnodup : (adapters.map Adapter.id).Nodup) :
    values.foldlM (addWritten t) adapters = .ok out ↔
      ∃ new, values.map (Adapter.read t) = new.map .ok ∧ out = adapters ++ new ∧
        (out.map Adapter.id).Nodup := by
  induction values generalizing adapters with
  | nil =>
    constructor
    · intro h
      obtain rfl := Except.ok.inj h
      exact ⟨[], rfl, (List.append_nil _).symm, hnodup⟩
    · rintro ⟨new, hnew, rfl, -⟩
      obtain rfl : new = [] := List.map_eq_nil_iff.1 hnew.symm
      rw [List.append_nil]
      rfl
  | cons v rest ih =>
    rw [List.foldlM_cons, bind_eq_ok_iff]
    constructor
    · rintro ⟨next, hfirst, hrest⟩
      obtain ⟨a, hread, hfresh, rfl⟩ := addWritten_eq_ok_iff.1 hfirst
      obtain ⟨new, hnew, rfl, hout⟩ := (ih (nodup_ids_append_singleton.2 ⟨hnodup, hfresh⟩)).1 hrest
      rw [← List.append_cons] at hout ⊢
      refine ⟨a :: new, ?_, rfl, hout⟩
      rw [List.map_cons, List.map_cons, hread, hnew]
    · rintro ⟨new, hnew, rfl, hout⟩
      obtain ⟨a, new, rfl, hread, hnew⟩ := List.map_eq_cons_iff.1 hnew.symm
      have hsplit := List.append_cons adapters a new
      have hnext : ((adapters ++ [a]).map Adapter.id).Nodup := by
        rw [hsplit, List.map_append] at hout
        exact hout.of_append_left
      have hfresh := (nodup_ids_append_singleton.1 hnext).2
      exact ⟨adapters ++ [a], addWritten_eq_ok_iff.2 ⟨a, hread.symm, hfresh, rfl⟩,
        (ih hnext).2 ⟨new, hnew.symm, hsplit, hout⟩⟩

/-! ### Entries -/

/-- The adapters of entries as far as each can be read. -/
def readAdapters (entries : List Entry) : List (Except AdapterError Adapter) :=
  entries.flatMap fun e => e.adapters.map (Adapter.read e.tracker)

/-- The catalog that entries describe. -/
structure Describes (entries : List Entry) (c : Catalog) : Prop where
  trackers : c.trackers = entries.map Entry.tracker
  adapters : readAdapters entries = c.adapters.map .ok
  nodup : c.ids.Nodup

theorem readAdapters_cons (e : Entry) (rest : List Entry) :
    readAdapters (e :: rest) = e.adapters.map (Adapter.read e.tracker) ++ readAdapters rest :=
  List.flatMap_cons

theorem addEntry_eq_ok_iff {c d : Catalog} {e : Entry} (hnodup : c.ids.Nodup) :
    addEntry c e = .ok d ↔
      ∃ new, e.adapters.map (Adapter.read e.tracker) = new.map .ok ∧
        d = ⟨c.trackers ++ [e.tracker], c.adapters ++ new⟩ ∧ d.ids.Nodup := by
  rw [addEntry_eq]
  constructor
  · intro h
    cases hread : e.adapters.foldlM (addWritten e.tracker) c.adapters with
    | error cause => rw [hread] at h; cases h
    | ok adapters =>
      rw [hread] at h
      obtain ⟨new, hnew, rfl, hids⟩ := (foldlM_addWritten hnodup).1 hread
      obtain rfl := Except.ok.inj h
      exact ⟨new, hnew, rfl, hids⟩
  · rintro ⟨new, hnew, rfl, hids⟩
    rw [(foldlM_addWritten hnodup).2 ⟨new, hnew, rfl, hids⟩]
    rfl

theorem foldlM_addEntry {entries : List Entry} {c d : Catalog} (hnodup : c.ids.Nodup) :
    entries.foldlM addEntry c = .ok d ↔
      d.trackers = c.trackers ++ entries.map Entry.tracker ∧
        (∃ new, readAdapters entries = new.map .ok ∧ d.adapters = c.adapters ++ new) ∧
          d.ids.Nodup := by
  induction entries generalizing c with
  | nil =>
    constructor
    · intro h
      obtain rfl := Except.ok.inj h
      exact ⟨(List.append_nil _).symm, ⟨[], rfl, (List.append_nil _).symm⟩, hnodup⟩
    · rintro ⟨htrackers, ⟨new, hnew, hadapters⟩, -⟩
      obtain rfl : new = [] := List.map_eq_nil_iff.1 hnew.symm
      rw [List.map_nil, List.append_nil] at htrackers
      rw [List.append_nil] at hadapters
      obtain ⟨trackers, adapters⟩ := d
      subst htrackers hadapters
      rfl
  | cons e rest ih =>
    rw [List.foldlM_cons, bind_eq_ok_iff]
    constructor
    · rintro ⟨next, hfirst, hrest⟩
      obtain ⟨first, hread, rfl, hids⟩ := (addEntry_eq_ok_iff hnodup).1 hfirst
      obtain ⟨htrackers, ⟨new, hnew, hadapters⟩, hd⟩ := (ih hids).1 hrest
      refine ⟨?_, ⟨first ++ new, ?_, ?_⟩, hd⟩
      · rw [htrackers, List.map_cons, List.append_assoc, List.singleton_append]
      · rw [readAdapters_cons, hread, hnew, List.map_append]
      · rw [hadapters, List.append_assoc]
    · rintro ⟨htrackers, ⟨new, hnew, hadapters⟩, hd⟩
      rw [readAdapters_cons] at hnew
      obtain ⟨first, others, rfl, hfirst, hothers⟩ := List.map_eq_append_iff.1 hnew.symm
      rw [← List.append_assoc] at hadapters
      let next : Catalog := ⟨c.trackers ++ [e.tracker], c.adapters ++ first⟩
      have hids : next.ids.Nodup := by
        rw [ids, hadapters, List.map_append] at hd
        exact hd.of_append_left
      refine ⟨next, (addEntry_eq_ok_iff hnodup).2 ⟨first, hfirst.symm, rfl, hids⟩,
        (ih hids).2 ⟨?_, ⟨others, hothers.symm, hadapters⟩, hd⟩⟩
      rw [htrackers, List.map_cons, List.append_assoc, List.singleton_append]

/-- A document is read exactly if it lists entries whose adapters can be read and have distinct ids,
and its catalog is then the one that they describe. -/
theorem ofDocument_eq_ok_iff {v : Json} {c : Catalog} :
    ofDocument v = .ok c ↔ ∃ entries, readEntries v = .ok entries ∧ Describes entries c := by
  unfold ofDocument
  cases hread : readEntries v with
  | error e => simp [Except.mapError, bind, Except.bind]
  | ok entries =>
    have hempty : empty.ids.Nodup := List.nodup_nil
    show entries.foldlM addEntry empty = .ok c ↔ _
    rw [foldlM_addEntry hempty]
    constructor
    · rintro ⟨htrackers, ⟨new, hnew, hadapters⟩, hnodup⟩
      obtain rfl : c.adapters = new := hadapters
      exact ⟨entries, rfl, htrackers, hnew, hnodup⟩
    · rintro ⟨others, heq, h⟩
      obtain rfl := Except.ok.inj heq
      exact ⟨h.trackers, ⟨c.adapters, h.adapters, rfl⟩, h.nodup⟩

/-- The catalog that a text describes. -/
def IsDocument (text : String) (c : Catalog) : Prop :=
  ∃ v entries, Json.read? text = some v ∧ readEntries v = .ok entries ∧ Describes entries c

theorem ofText_eq_ok_iff {text : String} {c : Catalog} : ofText text = .ok c ↔ IsDocument text c := by
  unfold ofText IsDocument
  cases Json.read? text with
  | none => simp
  | some v => simp [ofDocument_eq_ok_iff]

/-! ### Trackers known by their entries -/

namespace Loading

theorem list_list (k : Nat) (t : Tracker) (trackers : List (Nat × Tracker)) :
    list k t (list k t trackers) = list k t trackers := by
  by_cases hmem : t ∈ trackers.map Prod.snd
  · have hlist : list k t trackers = trackers := if_pos (List.contains_iff_mem.2 hmem)
    rw [hlist, hlist]
  · have hlist : list k t trackers = trackers ++ [(k, t)] :=
      if_neg (mt List.contains_iff_mem.1 hmem)
    rw [hlist]
    exact if_pos (by simp)

theorem push_read (k : Nat) (t : Tracker) (l : Loading) (v : Json) :
    ((do let a ← (Adapter.read t v).mapError CatalogError.adapter; l.push k a) :
        Except CatalogError Loading) =
      (addWritten t l.adapters v).map fun adapters => ⟨list k t l.trackers, adapters⟩ := by
  cases hread : Adapter.read t v with
  | error e => simp only [addWritten, hread]; rfl
  | ok a =>
    simp only [addWritten, hread, Except.mapError, bind, Except.bind, push, tracker_of_read hread]
    split <;> rfl

/-- The adapters of an entry bring its tracker along, unless an equal one is there. -/
theorem foldlM_push (k : Nat) (t : Tracker) (values : List Json) (l : Loading) :
    values.foldlM (fun l v => do
        let a ← (Adapter.read t v).mapError CatalogError.adapter
        l.push k a) l =
      (values.foldlM (addWritten t) l.adapters).map fun adapters =>
        ⟨if values = [] then l.trackers else list k t l.trackers, adapters⟩ := by
  induction values generalizing l with
  | nil => rfl
  | cons v rest ih =>
    rw [List.foldlM_cons, List.foldlM_cons, push_read]
    cases addWritten t l.adapters v with
    | error e => rfl
    | ok adapters =>
      show rest.foldlM _ (Loading.mk (list k t l.trackers) adapters) = _
      rw [ih, list_list, ite_self]
      rfl

/-- However an entry's adapters went, its tracker is listed once behind the others. -/
theorem addEntry_eq {k : Nat} {l : Loading} (hfresh : k ∉ l.trackers.map Prod.fst) (e : Entry) :
    addEntry l (e, k) = (e.adapters.foldlM (addWritten e.tracker) l.adapters).map
      fun adapters => ⟨l.trackers ++ [(k, e.tracker)], adapters⟩ := by
  rw [addEntry, foldlM_push]
  cases e.adapters.foldlM (addWritten e.tracker) l.adapters with
  | error cause => rfl
  | ok adapters =>
    have hclose : close k e.tracker ⟨l.trackers, adapters⟩ =
        ⟨l.trackers ++ [(k, e.tracker)], adapters⟩ :=
      if_neg (mt List.contains_iff_mem.1 hfresh)
    have hlist : close k e.tracker ⟨list k e.tracker l.trackers, adapters⟩ =
        ⟨l.trackers ++ [(k, e.tracker)], adapters⟩ := by
      unfold list
      split
      · exact hclose
      · exact if_pos (by simp)
    show Except.ok (close k e.tracker _) = Except.ok _
    split
    · rw [hclose]
    · rw [hlist]

theorem foldlM_addEntry (entries : List Entry) {n : Nat} {l : Loading}
    (hlower : ∀ listed ∈ l.trackers, listed.1 < n) :
    ((entries.zipIdx n).foldlM addEntry l).map catalog =
      entries.foldlM Catalog.addEntry l.catalog := by
  induction entries generalizing n l with
  | nil => rfl
  | cons e rest ih =>
    have hfresh : n ∉ l.trackers.map Prod.fst := by
      intro hmem
      obtain ⟨listed, hlisted, rfl⟩ := List.mem_map.1 hmem
      exact Nat.lt_irrefl _ (hlower listed hlisted)
    rw [List.zipIdx_cons, List.foldlM_cons, List.foldlM_cons, addEntry_eq hfresh,
      Catalog.addEntry_eq]
    show _ = ((e.adapters.foldlM (addWritten e.tracker) l.adapters).map _) >>= _
    cases e.adapters.foldlM (addWritten e.tracker) l.adapters with
    | error cause => rfl
    | ok adapters =>
      have hnext : ∀ listed ∈ l.trackers ++ [(n, e.tracker)], listed.1 < n + 1 := by
        intro listed hlisted
        rcases List.mem_append.1 hlisted with hold | hnew
        · exact Nat.lt_succ_of_lt (hlower listed hold)
        · rw [List.mem_singleton.1 hnew]
          exact Nat.lt_succ_self n
      have hrest := ih (l := ⟨l.trackers ++ [(n, e.tracker)], adapters⟩) hnext
      simp only [catalog, List.map_append, List.map_singleton] at hrest
      exact hrest

theorem ofDocument_eq (v : Json) : Loading.ofDocument v = Catalog.ofDocument v := by
  unfold Loading.ofDocument Catalog.ofDocument
  cases (readEntries v).mapError CatalogError.wrongShape with
  | error e => rfl
  | ok entries =>
    have hentries := foldlM_addEntry entries (n := 0) (l := ⟨[], []⟩) (by simp)
    show (entries.zipIdx.foldlM addEntry ⟨[], []⟩) >>= _ = entries.foldlM Catalog.addEntry empty
    rw [show empty = catalog ⟨[], []⟩ from rfl, ← hentries]
    cases entries.zipIdx.foldlM addEntry ⟨[], []⟩ <;> rfl

end Loading

end TrackerTraffic.Catalog
