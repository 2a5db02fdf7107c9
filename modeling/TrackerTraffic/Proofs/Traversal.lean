import Mathlib.Data.List.Forall2

/-!
# Items done one by one

A function that can fail is applied to the items of a list in order.  All succeed, and there
is a result for each of them, or the first one that fails decides.
-/

namespace TrackerTraffic

section Traversal

variable {α β ε : Type} {f : α → Except ε β}

theorem mapM_cons_of_ok {item : α} {result : β} (h : f item = .ok result) (rest : List α) :
    (item :: rest).mapM f = (rest.mapM f).map (result :: ·) := by
  rw [List.mapM_cons, h]
  cases rest.mapM f <;> rfl

theorem mapM_cons_of_error {item : α} {e : ε} (h : f item = .error e) (rest : List α) :
    (item :: rest).mapM f = .error e := by
  rw [List.mapM_cons, h]
  rfl

/-- There is a result for each item, in order. -/
theorem forall₂_of_mapM {items : List α} {results : List β} (h : items.mapM f = .ok results) :
    List.Forall₂ (fun item result => f item = .ok result) items results := by
  induction items generalizing results with
  | nil =>
    obtain rfl := Except.ok.inj h
    exact .nil
  | cons item rest ih =>
    cases hitem : f item with
    | error e =>
      rw [mapM_cons_of_error hitem] at h
      cases h
    | ok result =>
      rw [mapM_cons_of_ok hitem] at h
      cases hrest : rest.mapM f with
      | error e =>
        rw [hrest] at h
        cases h
      | ok later =>
        rw [hrest] at h
        obtain rfl := Except.ok.inj h
        exact .cons hitem (ih hrest)

/-- The first item that fails decides. -/
theorem mapM_eq_error_iff {items : List α} {e : ε} :
    items.mapM f = .error e ↔ ∃ front item back, items = front ++ item :: back ∧
      (∀ other ∈ front, ∃ result, f other = .ok result) ∧ f item = .error e := by
  constructor
  · intro h
    induction items with
    | nil => cases h
    | cons item rest ih =>
      cases hitem : f item with
      | error cause =>
        rw [mapM_cons_of_error hitem] at h
        obtain rfl := Except.error.inj h
        exact ⟨[], item, rest, rfl, fun other hmem => absurd hmem List.not_mem_nil, hitem⟩
      | ok result =>
        rw [mapM_cons_of_ok hitem] at h
        cases hrest : rest.mapM f with
        | ok later =>
          rw [hrest] at h
          cases h
        | error cause =>
          rw [hrest] at h
          obtain rfl := Except.error.inj h
          obtain ⟨front, first, back, rfl, hfront, hfirst⟩ := ih hrest
          have hbefore := List.forall_mem_cons.2 ⟨⟨result, hitem⟩, hfront⟩
          exact ⟨item :: front, first, back, rfl, hbefore, hfirst⟩
  · rintro ⟨front, item, back, rfl, hfront, hitem⟩
    induction front with
    | nil => exact mapM_cons_of_error hitem back
    | cons first front ih =>
      obtain ⟨⟨result, hfirst⟩, hfront⟩ := List.forall_mem_cons.1 hfront
      rw [List.cons_append, mapM_cons_of_ok hfirst, ih hfront]
      rfl

end Traversal

end TrackerTraffic
