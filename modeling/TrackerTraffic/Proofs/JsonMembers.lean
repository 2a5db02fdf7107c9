import Mathlib
import TrackerTraffic.Json.Basic

/-!
# Members of objects

How look-up and insertion act on a name that is absent and on one that stands at
the end, that they are a map's look-up and update, and that an insertion changes
one member at most.
-/

namespace TrackerTraffic.Json

def Absent (name : String) (members : Members) : Prop := ∀ member ∈ members, member.1 ≠ name

theorem Absent.of_cons {name : String} {member : String × Json} {rest : Members}
    (h : Absent name (member :: rest)) : member.1 ≠ name ∧ Absent name rest :=
  ⟨h member List.mem_cons_self, fun m hm => h m (List.mem_cons_of_mem _ hm)⟩

theorem lookup_of_absent {name : String} {members : Members} (h : Absent name members) :
    lookup name members = none := by
  induction members with
  | nil => rfl
  | cons member rest ih =>
    obtain ⟨hne, hrest⟩ := h.of_cons
    rw [lookup, if_neg hne, ih hrest]

theorem insert_of_absent {name : String} {members : Members} (h : Absent name members)
    (value : Json) : insert name value members = members ++ [(name, value)] := by
  induction members with
  | nil => rfl
  | cons member rest ih =>
    obtain ⟨hne, hrest⟩ := h.of_cons
    rw [insert, if_neg hne, ih hrest, List.cons_append]

theorem lookup_append_self {name : String} {members : Members} (h : Absent name members)
    (value : Json) : lookup name (members ++ [(name, value)]) = some value := by
  induction members with
  | nil => exact if_pos rfl
  | cons member rest ih =>
    obtain ⟨hne, hrest⟩ := h.of_cons
    rw [List.cons_append, lookup, if_neg hne, ih hrest]

theorem insert_append_self {name : String} {members : Members} (h : Absent name members)
    (first value : Json) :
    insert name value (members ++ [(name, first)]) = members ++ [(name, value)] := by
  induction members with
  | nil => exact if_pos rfl
  | cons member rest ih =>
    obtain ⟨hne, hrest⟩ := h.of_cons
    rw [List.cons_append, insert, if_neg hne, ih hrest, List.cons_append]

theorem lookup_insert_self (name : String) (value : Json) (members : Members) :
    lookup name (insert name value members) = some value := by
  induction members with
  | nil => exact if_pos rfl
  | cons member rest ih =>
    rw [insert]
    split
    · exact if_pos rfl
    · rename_i hne
      rw [lookup, if_neg hne, ih]

/-- An insertion appends a member or replaces the value of the first member of that name. -/
theorem insert_cases (name : String) (value : Json) (members : Members) :
    (lookup name members = none ∧ insert name value members = members ++ [(name, value)]) ∨
      ∃ front old back, lookup name members = some old ∧
        members = front ++ (name, old) :: back ∧
        insert name value members = front ++ (name, value) :: back := by
  induction members with
  | nil => exact .inl ⟨rfl, rfl⟩
  | cons member rest ih =>
    obtain ⟨n, v⟩ := member
    by_cases hname : n = name
    · subst hname
      exact .inr ⟨[], v, rest, if_pos rfl, rfl, if_pos rfl⟩
    · rw [lookup, if_neg hname, insert, if_neg hname]
      rcases ih with ⟨hnone, happend⟩ | ⟨front, old, back, hsome, rfl, hreplace⟩
      · exact .inl ⟨hnone, by rw [happend, List.cons_append]⟩
      · exact .inr ⟨(n, v) :: front, old, back, hsome, rfl, by rw [hreplace, List.cons_append]⟩

/-- An insertion under a name that is there replaces one value and nothing else. -/
theorem insert_of_lookup {name : String} {old : Json} {members : Members}
    (h : lookup name members = some old) :
    ∃ front back, members = front ++ (name, old) :: back ∧
      ∀ v, insert name v members = front ++ (name, v) :: back := by
  induction members with
  | nil => cases h
  | cons member rest ih =>
    obtain ⟨n, w⟩ := member
    rw [lookup] at h
    split at h
    · rename_i hname
      obtain rfl := Option.some.inj h
      subst hname
      exact ⟨[], rest, rfl, fun v => if_pos rfl⟩
    · rename_i hname
      obtain ⟨front, back, hrest, hinsert⟩ := ih h
      refine ⟨(n, w) :: front, back, by rw [hrest, List.cons_append], fun v => ?_⟩
      rw [insert, if_neg hname, hinsert, List.cons_append]

end TrackerTraffic.Json
