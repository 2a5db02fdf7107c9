import TrackerTraffic.Proofs.QueryRoundTrip

/-!
# Texts in trees

What a tree of a query string holds is the bag of its texts.  Storing a value in a
container replaces one child or appends one, so the texts of the container are
those of its other children and those of the value.
-/

namespace TrackerTraffic.QueryString

/-! ### Children -/

/-- What stands in a container, in order. -/
def children : Json → List Json
  | .array items => items
  | .object members => members.map Prod.snd
  | _ => []

theorem map_snd_numberItems (first : Nat) (items : List Json) :
    (numberItems first items).map Prod.snd = items := by
  induction items generalizing first with
  | nil => rfl
  | cons v rest ih => rw [numberItems, List.map_cons, ih]

theorem children_adapt (key : Key) (node : Json) : children (adapt key node) = children node := by
  unfold adapt
  split
  · cases node with
    | array items => exact map_snd_numberItems 0 items
    | _ => rfl
  · rfl

theorem children_freshFor (key : Key) : children (freshFor key) = [] := by
  cases key <;> rfl

/-- A container has a place for every step once it is adapted to the step. -/
theorem exists_place {node : Json} (hnode : isContainer node = true) (key : Key) :
    ∃ place, place? key (adapt key node) = some place := by
  cases node with
  | array items => cases key <;> exact ⟨_, rfl⟩
  | object members => cases key <;> exact ⟨_, rfl⟩
  | _ => cases hnode

theorem member_of_place {key : Key} {members : Json.Members} {place : Place}
    (hplace : place? key (.object members) = some place) : ∃ name, place = .member name := by
  cases key <;> exact ⟨_, (Option.some.inj hplace).symm⟩

theorem item_of_place {key : Key} {items : List Json} {place : Place}
    (hplace : place? key (.array items) = some place) :
    ∃ n, place = .item n ∧ n ≤ items.length := by
  cases key with
  | name text => cases hplace
  | index i =>
    refine ⟨_, (Option.some.inj hplace).symm, ?_⟩
    split <;> omega
  | push => exact ⟨_, (Option.some.inj hplace).symm, Nat.le_refl _⟩

theorem children_store {key : Key} {node : Json} {place : Place}
    (hplace : place? key node = some place) (value : Json) :
    (child? place node = none ∧ children (store place value node) = children node ++ [value]) ∨
      ∃ front old back, child? place node = some old ∧ children node = front ++ old :: back ∧
        children (store place value node) = front ++ value :: back := by
  cases node with
  | object members =>
    obtain ⟨name, rfl⟩ := member_of_place hplace
    rcases Json.insert_cases name value members with
      ⟨hnone, happend⟩ | ⟨front, old, back, hsome, hmembers, hreplace⟩
    · refine .inl ⟨hnone, ?_⟩
      simp only [children, store, happend, List.map_append, List.map_cons, List.map_nil]
    · refine .inr ⟨front.map Prod.snd, old, back.map Prod.snd, hsome, ?_, ?_⟩
      · simp only [children, hmembers, List.map_append, List.map_cons]
      · simp only [children, store, hreplace, List.map_append, List.map_cons]
  | array items =>
    obtain ⟨n, rfl, hle⟩ := item_of_place hplace
    by_cases hlt : n < items.length
    · refine .inr ⟨items.take n, items[n], items.drop (n + 1), List.getElem?_eq_getElem hlt, ?_, ?_⟩
      · simp only [children, List.getElem_cons_drop, List.take_append_drop]
      · simp only [children, store, if_pos hlt, List.set_eq_take_append_cons_drop]
    · refine .inl ⟨List.getElem?_eq_none (by omega), ?_⟩
      simp only [children, store, if_neg hlt]
  | _ => cases hplace

/-! ### Texts -/

/-- The texts in a value, as often as they occur. -/
def texts (v : Json) : Multiset (List Char) := ((leaves v).map Prod.snd : List (List Char))

theorem texts_string (text : List Char) : texts (.string (String.ofList text)) = {text} := by
  rw [texts, leaves, List.map_singleton, String.toList_ofList, Multiset.coe_singleton]

theorem texts_under (key : Key) (v : Json) :
    (((leaves v).map (Leaf.under key)).map Prod.snd : List (List Char)) =
      (leaves v).map Prod.snd := by
  rw [List.map_map]
  rfl

theorem texts_items (first : Nat) (items : List Json) :
    (((itemLeaves first items).map Prod.snd : List (List Char)) : Multiset (List Char)) =
      (items.map texts).sum := by
  induction items generalizing first with
  | nil => rfl
  | cons v rest ih =>
    rw [itemLeaves, List.map_append, texts_under, ← Multiset.coe_add, ih, List.map_cons,
      List.sum_cons, texts]

theorem texts_members (members : Json.Members) :
    (((memberLeaves members).map Prod.snd : List (List Char)) : Multiset (List Char)) =
      ((members.map Prod.snd).map texts).sum := by
  induction members with
  | nil => rfl
  | cons member rest ih =>
    rw [memberLeaves, List.map_append, texts_under, ← Multiset.coe_add, ih, List.map_cons,
      List.map_cons, List.sum_cons, texts]

/-- The texts of a container are those of its children. -/
theorem texts_of_isContainer {v : Json} (hv : isContainer v = true) :
    texts v = ((children v).map texts).sum := by
  cases v with
  | array items => exact texts_items 0 items
  | object members => exact texts_members members
  | _ => cases hv

theorem texts_adapt (key : Key) (node : Json) : texts (adapt key node) = texts node := by
  by_cases hnode : isContainer node = true
  · have hadapted : isContainer (adapt key node) = true := by rw [isContainer_adapt, hnode]
    rw [texts_of_isContainer hadapted, texts_of_isContainer hnode, children_adapt]
  · cases node with
    | array items => exact absurd rfl hnode
    | object members => exact absurd rfl hnode
    | _ => unfold adapt; split <;> rfl

theorem texts_freshFor (key : Key) : texts (freshFor key) = 0 := by
  rw [texts_of_isContainer (isContainer_freshFor key), children_freshFor]
  rfl

theorem texts_combine (existing value : Json) :
    texts (combine existing value) = texts existing + texts value := by
  cases existing with
  | array items =>
    rw [combine, texts_of_isContainer rfl, texts_of_isContainer rfl]
    simp [children]
  | _ =>
    show texts (.array [_, value]) = _
    rw [texts_of_isContainer rfl]
    simp [children]

theorem isContainer_of_place {key : Key} {node : Json} {place : Place}
    (hplace : place? key node = some place) : isContainer node = true := by
  cases node with
  | array items => rfl
  | object members => rfl
  | _ => cases hplace

/-- A value at a free place adds its texts. -/
theorem texts_store_of_none {key : Key} {node : Json} {place : Place}
    (hplace : place? key node = some place) (hchild : child? place node = none) (value : Json) :
    texts (store place value node) = texts node + texts value := by
  have hnode := isContainer_of_place hplace
  have hstored : isContainer (store place value node) = true := by rw [isContainer_store, hnode]
  rw [texts_of_isContainer hstored, texts_of_isContainer hnode]
  rcases children_store hplace value with ⟨-, happend⟩ | ⟨front, old, back, hsome, -, -⟩
  · simp [happend]
  · rw [hchild] at hsome
    cases hsome

/-- A value at a place that is taken stands for the child there, beside the same others. -/
theorem texts_store_of_some {key : Key} {node old : Json} {place : Place}
    (hplace : place? key node = some place) (hchild : child? place node = some old)
    (value : Json) : ∃ others, texts node = others + texts old ∧
      texts (store place value node) = others + texts value := by
  have hnode := isContainer_of_place hplace
  have hstored : isContainer (store place value node) = true := by rw [isContainer_store, hnode]
  rw [texts_of_isContainer hstored, texts_of_isContainer hnode]
  rcases children_store hplace value with ⟨hnone, -⟩ | ⟨front, first, back, hsome, hbefore, hafter⟩
  · rw [hchild] at hnone
    cases hnone
  · obtain rfl : old = first := by rw [hchild] at hsome; exact Option.some.inj hsome
    refine ⟨(front.map texts).sum + (back.map texts).sum, ?_, ?_⟩
    · simp only [hbefore, List.map_append, List.map_cons, List.sum_append, List.sum_cons]
      abel
    · simp only [hafter, List.map_append, List.map_cons, List.sum_append, List.sum_cons]
      abel

end TrackerTraffic.QueryString
