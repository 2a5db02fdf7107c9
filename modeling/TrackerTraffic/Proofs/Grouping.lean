import TrackerTraffic.Proofs.MemberOrder

/-!
# Values grouped by name

Values are entered under names one after another, and a value that finds another one under its
name makes an array with it or joins the array that is there.  If no value is itself an array,
this groups the values: each name has its value, or the array of its values if there are several.
-/

namespace TrackerTraffic.Json

/-- The value that is there with another one beside it. -/
def beside (existing value : Json) : Json :=
  match existing with
  | .array items => .array (items ++ [value])
  | first => .array [first, value]

def gather (members : Members) (entry : String × Json) : Members :=
  match lookup entry.1 members with
  | none => insert entry.1 entry.2 members
  | some existing => insert entry.1 (beside existing entry.2) members

/-- One value as it is, several as an array. -/
def grouped : List Json → Json
  | [v] => v
  | values => .array values

def valuesOf (name : String) (entries : List (String × Json)) : List Json :=
  (entries.filter (·.1 = name)).map Prod.snd

/-- The names in the order in which they first occur, each with all its values. -/
def groups (entries : List (String × Json)) : Members :=
  (entries.map Prod.fst).eraseDups.map fun name => (name, grouped (valuesOf name entries))

/-! ### Members made of names -/

theorem lookup_map_names (f : String → Json) (names : List String) (name : String) :
    lookup name (names.map fun n => (n, f n)) = if name ∈ names then some (f name) else none := by
  induction names with
  | nil => rfl
  | cons n rest ih =>
    rw [List.map_cons, lookup, ih]
    by_cases hn : n = name
    · subst hn
      simp
    · simp [hn, Ne.symm hn]

theorem insert_map_names {names : List String} (hnodup : names.Nodup) {name : String}
    (hname : name ∈ names) (f : String → Json) (value : Json) :
    insert name value (names.map fun n => (n, f n)) =
      names.map fun n => (n, if n = name then value else f n) := by
  induction names with
  | nil => cases hname
  | cons n rest ih =>
    obtain ⟨hfresh, hrest⟩ := List.nodup_cons.1 hnodup
    rw [List.map_cons, List.map_cons, insert]
    by_cases hn : n = name
    · subst hn
      have hsame : ∀ m ∈ rest, (m, f m) = (m, if m = n then value else f m) := by
        intro m hm
        have hne : m ≠ n := fun heq => hfresh (heq ▸ hm)
        rw [if_neg hne]
      rw [if_pos rfl, if_pos rfl, List.map_congr_left hsame]
    · have hmem : name ∈ rest := (List.mem_cons.1 hname).resolve_left (Ne.symm hn)
      rw [if_neg hn, if_neg hn, ih hrest hmem]

/-! ### Distinct names -/

theorem eraseDups_concat {α : Type} [DecidableEq α] (names : List α) (name : α) :
    (names ++ [name]).eraseDups =
      if name ∈ names then names.eraseDups else names.eraseDups ++ [name] := by
  rw [List.eraseDups_append]
  split
  · next hmem => simp [List.removeAll, hmem]
  · next hfresh => simp [List.removeAll, hfresh, List.eraseDups_cons]

theorem nodup_eraseDups (names : List String) : names.eraseDups.Nodup := by
  induction names using List.reverseRecOn with
  | nil => exact List.nodup_nil
  | append_singleton front name ih =>
    rw [eraseDups_concat]
    split
    · exact ih
    · next hfresh =>
      rw [List.nodup_append_comm, List.singleton_append, List.nodup_cons]
      exact ⟨mt List.mem_eraseDups.1 hfresh, ih⟩

theorem eraseDups_map {α β : Type} [DecidableEq α] [DecidableEq β] {f : α → β}
    (hf : Function.Injective f) (names : List α) :
    (names.map f).eraseDups = names.eraseDups.map f := by
  induction names using List.reverseRecOn with
  | nil => rfl
  | append_singleton front name ih =>
    rw [List.map_append, List.map_singleton, eraseDups_concat, eraseDups_concat, ih]
    by_cases hmem : name ∈ front
    · rw [if_pos hmem, if_pos (List.mem_map_of_mem hmem)]
    · rw [if_neg hmem, if_neg (mt (List.mem_map_of_injective hf).1 hmem), List.map_append,
        List.map_singleton]

/-! ### Entering values -/

theorem valuesOf_concat (name : String) (entries : List (String × Json)) (entry : String × Json) :
    valuesOf name (entries ++ [entry]) =
      if entry.1 = name then valuesOf name entries ++ [entry.2] else valuesOf name entries := by
  by_cases hname : entry.1 = name
  · simp [valuesOf, List.filter_append, hname]
  · simp [valuesOf, List.filter_append, hname]

theorem valuesOf_ne_nil {name : String} {entries : List (String × Json)}
    (h : name ∈ entries.map Prod.fst) : valuesOf name entries ≠ [] := by
  obtain ⟨entry, hentry, hname⟩ := List.mem_map.1 h
  have hmem : entry ∈ entries.filter (·.1 = name) :=
    List.mem_filter.2 ⟨hentry, decide_eq_true hname⟩
  rw [valuesOf]
  exact mt List.map_eq_nil_iff.1 (List.ne_nil_of_mem hmem)

theorem valuesOf_eq_nil {name : String} {entries : List (String × Json)}
    (h : name ∉ entries.map Prod.fst) : valuesOf name entries = [] := by
  rw [valuesOf, List.map_eq_nil_iff, List.filter_eq_nil_iff]
  intro entry hentry hname
  exact h (List.mem_map.2 ⟨entry, hentry, of_decide_eq_true hname⟩)

/-- Only an array that stands for several values takes a further one. -/
theorem beside_grouped {values : List Json} (hne : values ≠ [])
    (hsingle : ∀ v ∈ values, ∀ items, v ≠ .array items) (value : Json) :
    beside (grouped values) value = grouped (values ++ [value]) := by
  match values with
  | [] => exact absurd rfl hne
  | [v] =>
    have hv := hsingle v List.mem_cons_self
    cases v with
    | array items => exact absurd rfl (hv items)
    | _ => rfl
  | first :: second :: rest => rfl

theorem mem_of_mem_valuesOf {name : String} {entries : List (String × Json)} {v : Json}
    (h : v ∈ valuesOf name entries) : (name, v) ∈ entries := by
  obtain ⟨⟨n, w⟩, hmem, rfl⟩ := List.mem_map.1 h
  obtain ⟨hentry, hname⟩ := List.mem_filter.1 hmem
  obtain rfl : n = name := of_decide_eq_true hname
  exact hentry

theorem lookup_groups (name : String) (entries : List (String × Json)) :
    lookup name (groups entries) =
      if name ∈ entries.map Prod.fst then some (grouped (valuesOf name entries)) else none := by
  rw [groups, lookup_map_names]
  simp only [List.mem_eraseDups]

theorem names_groups (entries : List (String × Json)) :
    (groups entries).map Prod.fst = (entries.map Prod.fst).eraseDups := by
  rw [groups, List.map_map]
  exact List.map_id _

theorem lookup_groups_of_ne_nil {name : String} {entries : List (String × Json)}
    (h : valuesOf name entries ≠ []) :
    lookup name (groups entries) = some (grouped (valuesOf name entries)) := by
  have hmem : name ∈ entries.map Prod.fst := by
    by_contra hnot
    exact h (valuesOf_eq_nil hnot)
  rw [lookup_groups, if_pos hmem]

theorem grouped_of_two_le {values : List Json} (h : 2 ≤ values.length) :
    grouped values = .array values := by
  match values, h with
  | first :: second :: rest, _ => rfl

theorem gather_groups {entries : List (String × Json)}
    (hsingle : ∀ entry ∈ entries, ∀ items, entry.2 ≠ .array items) (entry : String × Json) :
    gather (groups entries) entry = groups (entries ++ [entry]) := by
  have hnames : (entries ++ [entry]).map Prod.fst = entries.map Prod.fst ++ [entry.1] := by
    rw [List.map_append, List.map_singleton]
  rw [gather, lookup_groups, groups, groups, hnames, eraseDups_concat]
  by_cases hmem : entry.1 ∈ entries.map Prod.fst
  · have hvalues : beside (grouped (valuesOf entry.1 entries)) entry.2 =
        grouped (valuesOf entry.1 entries ++ [entry.2]) :=
      beside_grouped (valuesOf_ne_nil hmem)
        (fun v hv => hsingle _ (mem_of_mem_valuesOf hv)) entry.2
    simp only [if_pos hmem]
    rw [hvalues, insert_map_names (nodup_eraseDups _) (List.mem_eraseDups.2 hmem)]
    refine List.map_congr_left fun name _ => ?_
    rw [valuesOf_concat]
    by_cases hname : name = entry.1
    · rw [if_pos hname, if_pos hname.symm, hname]
    · rw [if_neg hname, if_neg (Ne.symm hname)]
  · have habsent : Absent entry.1 ((entries.map Prod.fst).eraseDups.map
        fun name => (name, grouped (valuesOf name entries))) := by
      intro member hmember heq
      obtain ⟨name, hname, rfl⟩ := List.mem_map.1 hmember
      exact hmem (heq ▸ List.mem_eraseDups.1 hname)
    have hsame : ∀ name ∈ (entries.map Prod.fst).eraseDups,
        (name, grouped (valuesOf name entries)) =
          (name, grouped (valuesOf name (entries ++ [entry]))) := by
      intro name hname
      have hne : entry.1 ≠ name := fun heq => hmem (heq ▸ List.mem_eraseDups.1 hname)
      rw [valuesOf_concat, if_neg hne]
    simp only [if_neg hmem]
    rw [insert_of_absent habsent, List.map_append, List.map_singleton, List.map_congr_left hsame,
      valuesOf_concat, if_pos rfl, valuesOf_eq_nil hmem]
    rfl

/-- Entering values one after another groups them, if none of them is an array. -/
theorem foldl_gather {entries : List (String × Json)}
    (hsingle : ∀ entry ∈ entries, ∀ items, entry.2 ≠ .array items) :
    entries.foldl gather [] = groups entries := by
  -- from the end, as the values come: the last one joins what those before it have come to
  induction entries using List.reverseRecOn with
  | nil => rfl
  | append_singleton front entry ih =>
    have hfront := fun e he => hsingle e (List.mem_append_left [entry] he)
    rw [List.foldl_append, List.foldl_cons, List.foldl_nil, ih hfront, gather_groups hfront]

end TrackerTraffic.Json
