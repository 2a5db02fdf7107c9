import TrackerTraffic.Proofs.JsonMembers

/-!
# Values but for the order of members

Two values are the same but for the order of members if permuting members, in objects
at any depth, leads from one to the other.  Insertions under two names commute up to
that order, and what stands under a name does not depend on it.
-/

namespace TrackerTraffic.Json

/-- The least relation that permutes the members of objects, at any depth. -/
inductive SameButOrder : Json → Json → Prop where
  | refl (v : Json) : SameButOrder v v
  | trans {u v w : Json} (huv : SameButOrder u v) (hvw : SameButOrder v w) : SameButOrder u w
  | members {ms ns : Members} (h : ms.Perm ns) : SameButOrder (.object ms) (.object ns)
  | item (front back : List Json) {v w : Json} (h : SameButOrder v w) :
    SameButOrder (.array (front ++ v :: back)) (.array (front ++ w :: back))
  | member (front back : Members) (name : String) {v w : Json} (h : SameButOrder v w) :
    SameButOrder (.object (front ++ (name, v) :: back)) (.object (front ++ (name, w) :: back))

/-! ### Insertions -/

/-- The place of a name does not depend on the value that is inserted. -/
theorem exists_insert (name : String) (members : Members) :
    ∃ front back, ∀ value, insert name value members = front ++ (name, value) :: back := by
  induction members with
  | nil => exact ⟨[], [], fun _ => rfl⟩
  | cons member rest ih =>
    obtain ⟨n, v⟩ := member
    by_cases hname : n = name
    · exact ⟨[], rest, fun _ => if_pos hname⟩
    · obtain ⟨front, back, hrest⟩ := ih
      refine ⟨(n, v) :: front, back, fun value => ?_⟩
      rw [insert, if_neg hname, hrest, List.cons_append]

theorem SameButOrder.insert {v w : Json} (h : SameButOrder v w) (name : String)
    (ms : Members) : SameButOrder (.object (insert name v ms)) (.object (insert name w ms)) := by
  obtain ⟨front, back, hinsert⟩ := exists_insert name ms
  rw [hinsert, hinsert]
  exact .member front back name h

theorem SameButOrder.set {v w : Json} (h : SameButOrder v w) (items : List Json) (i : Nat) :
    SameButOrder (.array (items.set i v)) (.array (items.set i w)) := by
  rw [List.set_eq_take_append_cons_drop, List.set_eq_take_append_cons_drop]
  split
  · exact .item _ _ h
  · exact .refl _

theorem lookup_insert_of_ne {name other : String} (hne : name ≠ other) (value : Json)
    (members : Members) : lookup other (insert name value members) = lookup other members := by
  induction members with
  | nil => exact if_neg hne
  | cons member rest ih =>
    obtain ⟨n, v⟩ := member
    rw [insert]
    split
    · rename_i hname
      rw [lookup, lookup, if_neg hne, if_neg (hname ▸ hne)]
    · rw [lookup, lookup, ih]

theorem insert_insert (name : String) (first value : Json) (members : Members) :
    insert name value (insert name first members) = insert name value members := by
  induction members with
  | nil => simp [insert]
  | cons member rest ih =>
    obtain ⟨n, v⟩ := member
    by_cases hname : n = name
    · simp [insert, hname]
    · simp [insert, hname, ih]

/-- Insertions under two names come to the same members, of which two may be swapped. -/
theorem insert_comm {name other : String} (hne : name ≠ other) (v w : Json) (members : Members) :
    (insert other w (insert name v members)).Perm (insert name v (insert other w members)) := by
  induction members with
  | nil =>
    simp only [insert, if_neg hne, if_neg hne.symm]
    exact .swap _ _ _
  | cons member rest ih =>
    obtain ⟨n, u⟩ := member
    by_cases hname : n = name
    · subst hname
      simp [insert, hne]
    · by_cases hother : n = other
      · subst hother
        simp [insert, hname]
      · simp only [insert, if_neg hname, if_neg hother]
        exact ih.cons _

/-! ### Distinct names -/

theorem lookup_eq_some_iff {members : Members} (hnodup : (members.map Prod.fst).Nodup)
    {name : String} {value : Json} :
    lookup name members = some value ↔ (name, value) ∈ members := by
  induction members with
  | nil => simp [lookup]
  | cons member rest ih =>
    obtain ⟨n, v⟩ := member
    obtain ⟨hfresh, hrest⟩ := List.nodup_cons.1 hnodup
    by_cases hname : n = name
    · subst hname
      have hnot : (n, value) ∉ rest := fun hmem => hfresh (List.mem_map.2 ⟨_, hmem, rfl⟩)
      simp [lookup, hnot, eq_comm]
    · simp [lookup, hname, ih hrest, Ne.symm hname]

theorem lookup_eq_of_perm {ms ns : Members} (h : ms.Perm ns) (hnodup : (ms.map Prod.fst).Nodup)
    (name : String) : lookup name ms = lookup name ns := by
  have hnames : (ns.map Prod.fst).Nodup := (h.map Prod.fst).nodup_iff.1 hnodup
  ext value
  rw [lookup_eq_some_iff hnodup, lookup_eq_some_iff hnames, h.mem_iff]

theorem absent_of_lookup {name : String} {members : Members} (h : lookup name members = none) :
    name ∉ members.map Prod.fst := by
  induction members with
  | nil => exact List.not_mem_nil
  | cons member rest ih =>
    obtain ⟨n, v⟩ := member
    rw [lookup] at h
    split at h
    · cases h
    · rename_i hname
      rw [List.map_cons, List.mem_cons, not_or]
      exact ⟨Ne.symm hname, ih h⟩

theorem nodup_insert {name : String} {value : Json} {members : Members}
    (h : (members.map Prod.fst).Nodup) : ((insert name value members).map Prod.fst).Nodup := by
  rcases insert_cases name value members with
    ⟨hnone, happend⟩ | ⟨front, old, back, -, rfl, hreplace⟩
  · rw [happend, List.map_append, List.map_singleton, List.nodup_append_comm,
      List.singleton_append, List.nodup_cons]
    exact ⟨absent_of_lookup hnone, h⟩
  · rw [hreplace]
    simpa using h

/-! ### Looking up -/

theorem SameButOrder.lookup_middle {v w : Json} (h : SameButOrder v w) (front back : Members)
    (name other : String) (default : Json) :
    SameButOrder ((lookup other (front ++ (name, v) :: back)).getD default)
      ((lookup other (front ++ (name, w) :: back)).getD default) := by
  induction front with
  | nil =>
    simp only [List.nil_append, lookup]
    split
    · exact h
    · exact .refl _
  | cons member rest ih =>
    simp only [List.cons_append, lookup]
    split
    · exact .refl _
    · exact ih

/-- What is the same as an object with distinct names is one, with the same values under them. -/
theorem SameButOrder.exists_members {v w : Json} (h : SameButOrder v w) {ms : Members}
    (hv : v = .object ms) (hnodup : (ms.map Prod.fst).Nodup) :
    ∃ ns, w = .object ns ∧ (ns.map Prod.fst).Nodup ∧
      ∀ name default, SameButOrder ((lookup name ms).getD default)
        ((lookup name ns).getD default) := by
  induction h generalizing ms with
  | refl u => exact ⟨ms, hv, hnodup, fun _ _ => .refl _⟩
  | trans _ _ ihFirst ihSecond =>
    obtain ⟨_, rfl, hmiddle, hfirst⟩ := ihFirst hv hnodup
    obtain ⟨ns, rfl, hns, hsecond⟩ := ihSecond rfl hmiddle
    exact ⟨ns, rfl, hns, fun name default => (hfirst name default).trans (hsecond name default)⟩
  | @members _ ns hperm =>
    obtain rfl := Json.object.inj hv
    refine ⟨ns, rfl, (hperm.map Prod.fst).nodup_iff.1 hnodup, fun name default => ?_⟩
    rw [lookup_eq_of_perm hperm hnodup]
    exact .refl _
  | item _ _ _ _ => cases hv
  | @member front back name _ w h _ =>
    obtain rfl := Json.object.inj hv
    refine ⟨front ++ (name, w) :: back, rfl, by simpa using hnodup, ?_⟩
    exact fun other default => h.lookup_middle front back name other default

end TrackerTraffic.Json
