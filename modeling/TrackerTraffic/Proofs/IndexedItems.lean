import TrackerTraffic.Proofs.QueryLosses

/-!
# Items under numbers

The pairs `name[i]=v` of one name make an array.  A number is a position only while the array
is longer than it: a greater one appends, so the items stand in the order of arrival, and a
smaller one meets the value that arrived as that item, whatever its number was, and joins it.
-/

namespace TrackerTraffic.QueryString

/-- A value with its number, as it is written under a name. -/
def indexedPair (name : List Char) (entry : Nat × List Char) : List Char × List Char :=
  (spell [.name name, .index entry.1], entry.2)

/-- The items with one more value: joined to the one at its number, or behind them. -/
def addAt (items : List Json) (entry : Nat × List Char) : List Json :=
  match items[entry.1]? with
  | some old => items.set entry.1 (combine old (.string (String.ofList entry.2)))
  | none => items ++ [.string (String.ofList entry.2)]

def itemsOf (entries : List (Nat × List Char)) : List Json := entries.foldl addAt []

/-- The values as items of their own. -/
def strings (entries : List (Nat × List Char)) : List Json :=
  entries.map fun entry => .string (String.ofList entry.2)

/-- No number is smaller than the number of values in front of it. -/
def Ahead (entries : List (Nat × List Char)) : Prop :=
  ∀ (k : Nat) (entry : Nat × List Char), entries[k]? = some entry → k ≤ entry.1

def Ascending (entries : List (Nat × List Char)) : Prop := entries.Pairwise (·.1 < ·.1)

def byIndex (entries : List (Nat × List Char)) : List (Nat × List Char) :=
  entries.mergeSort fun first second => decide (first.1 ≤ second.1)

/-! ### Entering one value -/

theorem insert_index (items : List Json) (entry : Nat × List Char) :
    insert (.string (String.ofList entry.2)) [.index entry.1] (.array items) =
      .array (addAt items entry) := by
  have hadapt : adapt (.index entry.1) (.array items) = .array items := rfl
  simp only [insert, setLeaf, hadapt, place?, child?, addAt]
  by_cases hlt : entry.1 < items.length
  · simp only [if_pos hlt, List.getElem?_eq_getElem hlt, reduceCtorEq, if_false, store]
  · simp only [if_neg hlt, List.getElem?_eq_none (Nat.le_of_not_lt hlt),
      List.getElem?_eq_none (Nat.le_refl _), store, Nat.lt_irrefl, if_false]

theorem texts_addAt (items : List Json) (entry : Nat × List Char) :
    texts (.array (addAt items entry)) = texts (.array items) + {entry.2} := by
  have hitems : isContainer (.array items) = true := rfl
  have hchange := change_insert (.string (String.ofList entry.2)) (.index entry.1) [] hitems
  rw [insert_index] at hchange
  rw [← texts_string]
  cases hchange with
  | blocked hblocked _ => exact absurd hblocked (not_blocked_singleton rfl)
  | displaced hold _ _ => exact absurd hold.1 (by simp)
  | added _ _ htexts => exact htexts

section Entering

variable {name : List Char}

theorem enter_indexedPair (hname : IsName name) {entry : Nat × List Char}
    (hentry : entry.1 ≤ maxIndex) (node : Json) :
    enter node (indexedPair name entry) =
      insert (.string (String.ofList entry.2)) [.name name, .index entry.1] node := by
  have hkey : readKey (spell [.name name, .index entry.1]) = [.name name, .index entry.1] := by
    refine readKey_spell hname ?_ (Nat.le_add_left 1 4)
    intro key hmem
    obtain rfl := List.mem_singleton.1 hmem
    exact hentry
  have hspell := spell_name_ne_nil hname [.index entry.1]
  rw [indexedPair, enter, if_neg (by simpa using hspell), hkey]

theorem free_name (name : List Char) : Free (.name name) (.object []) :=
  .name fun _ hmem => absurd hmem List.not_mem_nil

theorem enter_first (hname : IsName name) {entry : Nat × List Char} (hentry : entry.1 ≤ maxIndex) :
    enter (.object []) (indexedPair name entry) =
      .object [(String.ofList name, .array (addAt [] entry))] := by
  rw [enter_indexedPair hname hentry, insert_fresh (free_name name)]
  exact congrArg (attach (.name name) · (.object [])) (insert_index [] entry)

theorem enter_next (hname : IsName name) {entry : Nat × List Char} (hentry : entry.1 ≤ maxIndex)
    (items : List Json) :
    enter (.object [(String.ofList name, .array items)]) (indexedPair name entry) =
      .object [(String.ofList name, .array (addAt items entry))] := by
  have hitems : isContainer (.array items) = true := rfl
  have hattach := insert_attach (free_name name) hitems (.string (String.ofList entry.2))
    (.index entry.1) []
  rw [enter_indexedPair hname hentry]
  exact hattach.trans (congrArg (attach (.name name) · (.object [])) (insert_index items entry))

/-- The tree of the pairs of one name holds the array of their values and nothing else. -/
theorem treeOf_indexed (hname : IsName name) {entries : List (Nat × List Char)}
    (hne : entries ≠ []) (hlimit : ∀ entry ∈ entries, entry.1 ≤ maxIndex) :
    treeOf (entries.map (indexedPair name)) =
      .object [(String.ofList name, .array (itemsOf entries))] := by
  induction entries using List.reverseRecOn with
  | nil => exact absurd rfl hne
  | append_singleton front entry ih =>
    have hentry : entry.1 ≤ maxIndex :=
      hlimit entry (List.mem_append_right _ List.mem_cons_self)
    rw [List.map_append, treeOf_append, List.map_singleton, List.foldl_cons, List.foldl_nil,
      itemsOf, List.foldl_append, List.foldl_cons, List.foldl_nil]
    by_cases hfront : front = []
    · subst hfront
      exact enter_first hname hentry
    · have hbefore := ih hfront fun e he => hlimit e (List.mem_append_left _ he)
      rw [hbefore]
      exact enter_next hname hentry _

end Entering

/-! ### Items in the order of arrival -/

section Arrival

variable {entries : List (Nat × List Char)}

theorem itemsOf_concat (front : List (Nat × List Char)) (entry : Nat × List Char) :
    itemsOf (front ++ [entry]) = addAt (itemsOf front) entry := by
  rw [itemsOf, List.foldl_append, List.foldl_cons, List.foldl_nil, itemsOf]

theorem texts_itemsOf (entries : List (Nat × List Char)) :
    texts (.array (itemsOf entries)) = (entries.map Prod.snd : List (List Char)) := by
  induction entries using List.reverseRecOn with
  | nil => rfl
  | append_singleton front entry ih =>
    rw [itemsOf_concat, texts_addAt, ih, List.map_append, ← Multiset.coe_add]
    rfl

theorem ahead_concat (front : List (Nat × List Char)) (entry : Nat × List Char) :
    Ahead (front ++ [entry]) ↔ Ahead front ∧ front.length ≤ entry.1 := by
  constructor
  · intro h
    refine ⟨fun k other hk => ?_, h front.length entry List.getElem?_concat_length⟩
    obtain ⟨hlt, -⟩ := List.getElem?_eq_some_iff.1 hk
    exact h k other (by rw [List.getElem?_append_left hlt, hk])
  · rintro ⟨hfront, hentry⟩ k other hk
    rcases Nat.lt_or_ge k front.length with hlt | hge
    · rw [List.getElem?_append_left hlt] at hk
      exact hfront k other hk
    · rw [List.getElem?_append_right hge, List.getElem?_singleton] at hk
      split at hk
      · obtain rfl := Option.some.inj hk
        omega
      · cases hk

theorem itemsOf_of_ahead (h : Ahead entries) : itemsOf entries = strings entries := by
  induction entries using List.reverseRecOn with
  | nil => rfl
  | append_singleton front entry ih =>
    obtain ⟨hfront, hentry⟩ := (ahead_concat front entry).1 h
    have hlength : (strings front).length ≤ entry.1 := by rwa [strings, List.length_map]
    rw [itemsOf_concat, ih hfront, addAt, List.getElem?_eq_none hlength, strings, strings,
      List.map_append, List.map_singleton]

theorem not_isContainer_of_mem_strings {v : Json} (hv : v ∈ strings entries) :
    isContainer v = false := by
  obtain ⟨entry, -, rfl⟩ := List.mem_map.1 hv
  rfl

theorem isContainer_combine (existing value : Json) :
    isContainer (combine existing value) = true := by
  cases existing <;> rfl

/-- A value that meets an item leaves an array there, and arrays are never taken apart again. -/
theorem exists_container_addAt {items : List Json} {entry : Nat × List Char}
    (h : (∃ v ∈ items, isContainer v = true) ∨ entry.1 < items.length) :
    ∃ v ∈ addAt items entry, isContainer v = true := by
  unfold addAt
  split
  · next old hold =>
    obtain ⟨hlt, -⟩ := List.getElem?_eq_some_iff.1 hold
    exact ⟨_, List.mem_set hlt _, isContainer_combine _ _⟩
  · next hnone =>
    rcases h with ⟨v, hv, hcontainer⟩ | hlt
    · exact ⟨v, List.mem_append_left _ hv, hcontainer⟩
    · rw [List.getElem?_eq_getElem hlt] at hnone
      cases hnone

theorem exists_container_iff (entries : List (Nat × List Char)) :
    (∃ v ∈ itemsOf entries, isContainer v = true) ↔ ¬ Ahead entries := by
  constructor
  · rintro ⟨v, hv, hcontainer⟩ hahead
    rw [itemsOf_of_ahead hahead] at hv
    rw [not_isContainer_of_mem_strings hv] at hcontainer
    cases hcontainer
  · intro h
    induction entries using List.reverseRecOn with
    | nil =>
      refine absurd (fun k entry hk => ?_) h
      rw [List.getElem?_nil] at hk
      cases hk
    | append_singleton front entry ih =>
      rw [itemsOf_concat]
      refine exists_container_addAt ?_
      by_cases hfront : Ahead front
      · refine .inr (Nat.lt_of_not_le fun hle => h ((ahead_concat front entry).2 ⟨hfront, ?_⟩))
        rwa [itemsOf_of_ahead hfront, strings, List.length_map] at hle
      · exact .inl (ih hfront)

/-! ### Items in the order of their numbers -/

theorem byIndex_perm (entries : List (Nat × List Char)) : (byIndex entries).Perm entries :=
  List.mergeSort_perm entries _

theorem byIndex_sorted (entries : List (Nat × List Char)) :
    (byIndex entries).Pairwise (·.1 ≤ ·.1) := by
  have hsorted : (byIndex entries).Pairwise fun first second => decide (first.1 ≤ second.1) :=
    List.pairwise_mergeSort
      (fun a b c hab hbc => by simp only [decide_eq_true_eq] at *; omega)
      (fun a b => by simp only [Bool.or_eq_true, decide_eq_true_eq]; omega) entries
  exact hsorted.imp fun hle => of_decide_eq_true hle

theorem Ascending.byIndex_eq (h : Ascending entries) : byIndex entries = entries := by
  refine List.mergeSort_of_pairwise (h.imp fun hlt => ?_)
  exact decide_eq_true (Nat.le_of_lt hlt)

theorem Ascending.ahead (h : Ascending entries) : Ahead entries := by
  intro k
  induction k with
  | zero => exact fun entry _ => Nat.zero_le _
  | succ k ih =>
    intro entry hk
    obtain ⟨hlt, rfl⟩ := List.getElem?_eq_some_iff.1 hk
    have hbefore := ih entries[k] (List.getElem?_eq_getElem _)
    have hnext := List.pairwise_iff_getElem.1 h k (k + 1) (by omega) hlt (by omega)
    omega

theorem strings_inj {other : List (Nat × List Char)} :
    strings entries = strings other ↔ entries.map Prod.snd = other.map Prod.snd := by
  have hinjective : Function.Injective fun cs : List Char => Json.string (String.ofList cs) :=
    fun first second h => String.ofList_injective (Json.string.inj h)
  have hstrings : ∀ es : List (Nat × List Char), strings es =
      (es.map Prod.snd).map fun cs => Json.string (String.ofList cs) := by
    intro es
    rw [List.map_map]
    rfl
  rw [hstrings, hstrings, (List.map_injective_iff.2 hinjective).eq_iff]

theorem itemsOf_eq_byIndex_iff (entries : List (Nat × List Char)) :
    itemsOf entries = strings (byIndex entries) ↔
      Ahead entries ∧ entries.map Prod.snd = (byIndex entries).map Prod.snd := by
  constructor
  · intro h
    have hahead : Ahead entries := by
      by_contra hbehind
      obtain ⟨v, hv, hcontainer⟩ := (exists_container_iff entries).2 hbehind
      rw [h] at hv
      rw [not_isContainer_of_mem_strings hv] at hcontainer
      cases hcontainer
    rw [itemsOf_of_ahead hahead] at h
    exact ⟨hahead, strings_inj.1 h⟩
  · rintro ⟨hahead, hvalues⟩
    rw [itemsOf_of_ahead hahead]
    exact strings_inj.2 hvalues

/-- Entries that are told apart by their values stand in order as soon as the values do. -/
theorem byIndex_eq_of_values (hvalues : (entries.map Prod.snd).Nodup)
    (h : entries.map Prod.snd = (byIndex entries).map Prod.snd) : byIndex entries = entries := by
  have hperm := byIndex_perm entries
  refine List.ext_getElem hperm.length_eq fun k hsorted hk => ?_
  have hmem : (byIndex entries)[k] ∈ entries := hperm.mem_iff.1 (List.getElem_mem hsorted)
  have hsame : ((byIndex entries)[k]).2 = (entries[k]).2 := by
    have hget := congrArg (·[k]?) h
    simpa [hsorted, hk] using hget.symm
  exact List.inj_on_of_nodup_map hvalues hmem (List.getElem_mem hk) hsame

theorem ascending_of_byIndex (hnodup : (entries.map Prod.fst).Nodup)
    (h : byIndex entries = entries) : Ascending entries := by
  have hsorted := byIndex_sorted entries
  rw [h] at hsorted
  have hapart : entries.Pairwise fun first second => first.1 ≠ second.1 :=
    List.pairwise_map.1 hnodup
  exact (hsorted.and hapart).imp fun hboth => Nat.lt_of_le_of_ne hboth.1 hboth.2

theorem itemsOf_eq_byIndex_iff_ascending (hnodup : (entries.map Prod.fst).Nodup)
    (hvalues : (entries.map Prod.snd).Nodup) :
    itemsOf entries = strings (byIndex entries) ↔ Ascending entries := by
  rw [itemsOf_eq_byIndex_iff]
  constructor
  · rintro ⟨-, hsame⟩
    exact ascending_of_byIndex hnodup (byIndex_eq_of_values hvalues hsame)
  · intro h
    exact ⟨h.ahead, by rw [h.byIndex_eq]⟩

end Arrival

/-! ### Texts of numbered pairs -/

/-- The values of one name under different numbers: none is lost, they stay apart exactly if none
arrives behind more values than its number, and then they stand in the order of arrival.  That is
the order of their numbers if the numbers ascend and, for different values, only then. -/
theorem parse_indexed {text : String} {name : List Char} {entries : List (Nat × List Char)}
    (hname : IsName name) (hne : entries ≠ []) (hnodup : (entries.map Prod.fst).Nodup)
    (hlimit : ∀ entry ∈ entries, entry.1 ≤ maxIndex)
    (hpairs : namedPairs text = entries.map (indexedPair name)) :
    parse text = .object [(String.ofList name, .array (itemsOf entries))] ∧
      texts (.array (itemsOf entries)) = (entries.map Prod.snd : List (List Char)) ∧
      ((∃ item ∈ itemsOf entries, isContainer item = true) ↔ ¬ Ahead entries) ∧
      (Ahead entries → itemsOf entries = strings entries) ∧
      (itemsOf entries = strings (byIndex entries) ↔
        Ahead entries ∧ entries.map Prod.snd = (byIndex entries).map Prod.snd) ∧
      (Ascending entries → itemsOf entries = strings (byIndex entries)) ∧
      ((entries.map Prod.snd).Nodup →
        (itemsOf entries = strings (byIndex entries) ↔ Ascending entries)) := by
  have htree : parse text = .object [(String.ofList name, .array (itemsOf entries))] := by
    rw [parse_eq_treeOf, hpairs, treeOf_indexed hname hne hlimit]
  refine ⟨htree, texts_itemsOf entries, exists_container_iff entries, itemsOf_of_ahead,
    itemsOf_eq_byIndex_iff entries, fun h => ?_, itemsOf_eq_byIndex_iff_ascending hnodup⟩
  rw [itemsOf_of_ahead h.ahead, h.byIndex_eq]

theorem parse_indexed_gap :
    let entries : List (Nat × List Char) := [(2, ['x']), (5, ['y'])]
    IsName ['a'] ∧ entries ≠ [] ∧ (entries.map Prod.fst).Nodup ∧
      (∀ entry ∈ entries, entry.1 ≤ maxIndex) ∧
      namedPairs "a[2]=x&a[5]=y" = entries.map (indexedPair ['a']) ∧
      parse "a[2]=x&a[5]=y" = .object [("a", .array [.string "x", .string "y"])] := by
  intro entries
  have hname : IsName ['a'] := by decide
  have hne : entries ≠ [] := List.cons_ne_nil _ _
  have hnodup : (entries.map Prod.fst).Nodup := by decide
  have hlimit : ∀ entry ∈ entries, entry.1 ≤ maxIndex := by decide
  have hpairs : namedPairs "a[2]=x&a[5]=y" = entries.map (indexedPair ['a']) := by decide +kernel
  have hascending : Ascending entries := by unfold Ascending; decide
  obtain ⟨htree, -, -, -, -, hsorted, -⟩ := parse_indexed hname hne hnodup hlimit hpairs
  rw [hsorted hascending, hascending.byIndex_eq] at htree
  exact ⟨hname, hne, hnodup, hlimit, hpairs, htree⟩

/-- The value under `0` joins the one under `1` that arrived as the first item. -/
theorem parse_indexed_unordered :
    ¬ ∀ (text : String) (name : List Char) (entries : List (Nat × List Char)),
      IsName name → entries ≠ [] → (entries.map Prod.fst).Nodup →
        (∀ entry ∈ entries, entry.1 ≤ maxIndex) →
          namedPairs text = entries.map (indexedPair name) →
            parse text = .object [(String.ofList name, .array (strings (byIndex entries)))] := by
  intro h
  have hpairs : namedPairs "a[1]=x&a[0]=y" =
      [(1, ['x']), (0, ['y'])].map (indexedPair ['a']) := by decide +kernel
  have hsorted := h _ _ _ (by decide) (List.cons_ne_nil _ _) (by decide) (by decide) hpairs
  have hjoined : parse "a[1]=x&a[0]=y" =
      .object [("a", .array [.array [.string "x", .string "y"]])] := by
    rw [parse_eq_treeOf, hpairs, treeOf_indexed (by decide) (List.cons_ne_nil _ _) (by decide)]
    rfl
  have hlength : (strings (byIndex [(1, ['x']), (0, ['y'])])).length = 2 := by
    rw [strings, List.length_map, (byIndex_perm _).length_eq]
    rfl
  rw [hjoined] at hsorted
  injection hsorted with hmembers
  injection hmembers with hmember
  injection hmember with _ hitems
  injection hitems with hitems
  rw [← hitems] at hlength
  cases hlength

end TrackerTraffic.QueryString
