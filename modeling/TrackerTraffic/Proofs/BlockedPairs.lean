import TrackerTraffic.Proofs.QueryLosses

/-!
# Pairs that are blocked

A pair whose way runs into a text is not entered.  The walk up to the text can still leave
a trace: a name on the way turns the array in which it is looked up into an object.  So a
blocked pair changes the kinds of containers at most, and it changes one exactly if an array
stands on its way where a number too great for a position follows.
-/

namespace TrackerTraffic.QueryString

/-! ### Storing where something stands -/

/-- What stands in a container, an item under the text of its position. -/
def members : Json → Json.Members
  | .array items => numberItems 0 items
  | .object members => members
  | _ => []

theorem members_adapt (key : Key) (node : Json) : members (adapt key node) = members node := by
  unfold adapt
  split
  · cases node <;> rfl
  · rfl

theorem numberItems_append (first : Nat) (front back : List Json) :
    numberItems first (front ++ back) =
      numberItems first front ++ numberItems (first + front.length) back := by
  induction front generalizing first with
  | nil => rfl
  | cons v rest ih =>
    have hsum : first + 1 + rest.length = first + (rest.length + 1) := by omega
    rw [List.cons_append, numberItems, ih, numberItems, List.cons_append, List.length_cons, hsum]

section Store

variable {key : Key} {node old : Json} {place : Place}

/-- A value stored where another one stands takes its place among the members. -/
theorem members_store (hplace : place? key node = some place)
    (hchild : child? place node = some old) :
    ∃ front name back, members node = front ++ (name, old) :: back ∧
      ∀ v, members (store place v node) = front ++ (name, v) :: back := by
  cases node with
  | object all =>
    obtain ⟨name, rfl⟩ := member_of_place hplace
    obtain ⟨front, back, hall, hinsert⟩ := Json.insert_of_lookup hchild
    exact ⟨front, name, back, hall, hinsert⟩
  | array items =>
    obtain ⟨n, rfl, -⟩ := item_of_place hplace
    obtain ⟨hlt, rfl⟩ := List.getElem?_eq_some_iff.1 hchild
    have hfirst : 0 + (items.take n).length = n := by
      rw [List.length_take]
      omega
    have hcut : ∀ v, numberItems 0 (items.take n ++ v :: items.drop (n + 1)) =
        numberItems 0 (items.take n) ++
          (toString n, v) :: numberItems (n + 1) (items.drop (n + 1)) := by
      intro v
      rw [numberItems_append, hfirst, numberItems]
    have hitems : items.take n ++ items[n] :: items.drop (n + 1) = items := by
      rw [List.getElem_cons_drop, List.take_append_drop]
    refine ⟨numberItems 0 (items.take n), toString n,
      numberItems (n + 1) (items.drop (n + 1)), ?_, fun v => ?_⟩
    · rw [← hcut, hitems]
      rfl
    · rw [store, if_pos hlt, List.set_eq_take_append_cons_drop, if_pos hlt]
      exact hcut v
  | _ => cases hplace

theorem child_store (hplace : place? key node = some place) (v : Json) :
    child? place (store place v node) = some v := by
  cases node with
  | object all =>
    obtain ⟨name, rfl⟩ := member_of_place hplace
    exact Json.lookup_insert_self name v all
  | array items =>
    obtain ⟨n, rfl, hle⟩ := item_of_place hplace
    rw [store]
    split
    · rename_i hlt
      exact List.getElem?_set_self hlt
    · have hend : n = items.length := by omega
      rw [child?, hend, List.getElem?_concat_length]
  | _ => cases hplace

theorem store_child (hplace : place? key node = some place)
    (hchild : child? place node = some old) : store place old node = node := by
  cases node with
  | object all =>
    obtain ⟨name, rfl⟩ := member_of_place hplace
    obtain ⟨front, back, hall, hinsert⟩ := Json.insert_of_lookup hchild
    rw [store, hinsert, hall]
  | array items =>
    obtain ⟨n, rfl, -⟩ := item_of_place hplace
    obtain ⟨hlt, rfl⟩ := List.getElem?_eq_some_iff.1 hchild
    rw [store, if_pos hlt, List.set_getElem_self]
  | _ => cases hplace

/-- A value that is stored changes nothing exactly if it is the one that stands there. -/
theorem store_eq_self_iff (hplace : place? key node = some place)
    (hchild : child? place node = some old) (v : Json) : store place v node = node ↔ v = old := by
  constructor
  · intro h
    have hfound := child_store hplace v
    rw [h, hchild] at hfound
    exact (Option.some.inj hfound).symm
  · rintro rfl
    exact store_child hplace hchild

end Store

/-! ### Arrays on the way -/

/-- An array stands on the way where a name follows. -/
def Turns (way : List Key) (node : Json) : Prop :=
  ∃ front text back items, way = front ++ .name text :: back ∧
    walk? front node = some (.array items)

theorem adapt_eq_self_iff {key : Key} {node : Json} :
    adapt key node = node ↔ ¬ ((∃ text, key = .name text) ∧ ∃ items, node = .array items) := by
  cases key with
  | name text => cases node <;> simp [adapt, Key.isName, arrayToObject]
  | index n => simp [adapt, Key.isName]
  | push => simp [adapt, Key.isName]

theorem turns_cons {key : Key} {way : List Key} {node : Json} :
    Turns (key :: way) node ↔
      ((∃ text, key = .name text) ∧ ∃ items, node = .array items) ∨
        ∃ child, stepTo? key node = some child ∧ Turns way child := by
  constructor
  · rintro ⟨front, text, back, items, hway, hwalk⟩
    cases front with
    | nil =>
      obtain ⟨rfl, rfl⟩ := List.cons.inj hway
      exact .inl ⟨⟨text, rfl⟩, items, Option.some.inj hwalk⟩
    | cons first front =>
      obtain ⟨rfl, rfl⟩ := List.cons.inj hway
      obtain ⟨child, hstep, hwalk⟩ := Option.bind_eq_some_iff.1 hwalk
      exact .inr ⟨child, hstep, front, text, back, items, rfl, hwalk⟩
  · rintro (⟨⟨text, rfl⟩, items, rfl⟩ | ⟨child, hstep, front, text, back, items, rfl, hwalk⟩)
    · exact ⟨[], text, way, items, rfl, rfl⟩
    · refine ⟨key :: front, text, back, items, rfl, ?_⟩
      rw [walk?, hstep]
      exact hwalk

theorem not_turns_scalar {node : Json} (hnode : isContainer node = false) (way : List Key) :
    ¬ Turns way node := by
  rintro ⟨front, text, back, items, rfl, hwalk⟩
  cases front with
  | nil =>
    obtain rfl : node = .array items := Option.some.inj hwalk
    cases hnode
  | cons key front =>
    rw [walk?, stepTo?_scalar hnode] at hwalk
    cases hwalk

/-- A value whose way is blocked leaves a tree as it is exactly if no array on the way is asked for
a name. -/
theorem insert_eq_self_iff (value : Json) {way : List Key} {node : Json}
    (hnode : isContainer node = true) (hblocked : Blocked way node) :
    insert value way node = node ↔ ¬ Turns way node := by
  induction way generalizing node with
  | nil =>
    obtain ⟨front, back, v, hnil, hback, -⟩ := hblocked
    exact absurd (List.append_eq_nil_iff.1 hnil.symm).2 hback
  | cons key rest ih =>
    cases rest with
    | nil => exact absurd hblocked (not_blocked_singleton hnode)
    | cons next later =>
      obtain ⟨child, hstep, hchild⟩ := (blocked_cons hnode).1 hblocked
      obtain ⟨place, hplace, hfound, hinsert⟩ := insert_longer hnode value key next later
      rw [hstep] at hfound hinsert
      rw [turns_cons, hstep, not_or, ← adapt_eq_self_iff]
      simp only [Option.some.injEq, exists_eq_left']
      cases hcontainer : isContainer child with
      | false =>
        simp only [hcontainer, Bool.false_eq_true, if_false] at hinsert
        rw [hinsert]
        exact (and_iff_left (not_turns_scalar hcontainer _)).symm
      | true =>
        simp only [hcontainer, if_true] at hinsert
        rw [hinsert, ← ih hcontainer hchild]
        -- a store keeps the kind of a container, so an array that was turned stays an object
        by_cases hadapt : adapt key node = node
        · rw [hadapt] at hplace hfound ⊢
          rw [store_eq_self_iff hplace hfound]
          exact (and_iff_right rfl).symm
        · refine iff_of_false (fun hsame => ?_) (fun h => hadapt h.1)
          obtain ⟨⟨text, rfl⟩, items, rfl⟩ := not_not.1 (mt adapt_eq_self_iff.2 hadapt)
          obtain ⟨name, rfl⟩ := member_of_place hplace
          cases hsame

/-! ### What stays -/

/-- The texts in a value, each behind the texts of the steps to it. -/
def spelledLeaves (v : Json) : List (List (List Char) × List Char) :=
  (leaves v).map fun leaf => (leaf.1.map Key.text, leaf.2)

theorem spelledLeaves_items (first : Nat) (items : List Json) :
    (itemLeaves first items).map (fun leaf => (leaf.1.map Key.text, leaf.2)) =
      (numberItems first items).flatMap fun member =>
        (spelledLeaves member.2).map fun leaf => (member.1.toList :: leaf.1, leaf.2) := by
  induction items generalizing first with
  | nil => rfl
  | cons v rest ih =>
    rw [itemLeaves, List.map_append, ih, numberItems, List.flatMap_cons, spelledLeaves,
      List.map_map, List.map_map]
    rfl

theorem spelledLeaves_members (members : Json.Members) :
    (memberLeaves members).map (fun leaf => (leaf.1.map Key.text, leaf.2)) =
      members.flatMap fun member =>
        (spelledLeaves member.2).map fun leaf => (member.1.toList :: leaf.1, leaf.2) := by
  induction members with
  | nil => rfl
  | cons member rest ih =>
    obtain ⟨name, v⟩ := member
    rw [memberLeaves, List.map_append, ih, List.flatMap_cons, spelledLeaves, List.map_map,
      List.map_map]
    rfl

/-- The leaves of a container are spelled by its members, whatever its kind. -/
theorem spelledLeaves_of_isContainer {v : Json} (hv : isContainer v = true) :
    spelledLeaves v = (members v).flatMap fun member =>
      (spelledLeaves member.2).map fun leaf => (member.1.toList :: leaf.1, leaf.2) := by
  cases v with
  | array items => exact spelledLeaves_items 0 items
  | object all => exact spelledLeaves_members all
  | _ => cases hv

theorem spelledLeaves_adapt {node : Json} (hnode : isContainer node = true) (key : Key) :
    spelledLeaves (adapt key node) = spelledLeaves node := by
  have hadapted : isContainer (adapt key node) = true := by rw [isContainer_adapt, hnode]
  rw [spelledLeaves_of_isContainer hadapted, spelledLeaves_of_isContainer hnode, members_adapt]

theorem spelledLeaves_insert (value : Json) {way : List Key} {node : Json}
    (hnode : isContainer node = true) (hblocked : Blocked way node) :
    spelledLeaves (insert value way node) = spelledLeaves node := by
  induction way generalizing node with
  | nil => rfl
  | cons key rest ih =>
    cases rest with
    | nil => exact absurd hblocked (not_blocked_singleton hnode)
    | cons next later =>
      obtain ⟨child, hstep, hchild⟩ := (blocked_cons hnode).1 hblocked
      obtain ⟨place, hplace, hfound, hinsert⟩ := insert_longer hnode value key next later
      rw [hstep] at hfound hinsert
      cases hcontainer : isContainer child with
      | false =>
        simp only [hcontainer, Bool.false_eq_true, if_false] at hinsert
        rw [hinsert, spelledLeaves_adapt hnode]
      | true =>
        simp only [hcontainer, if_true] at hinsert
        obtain ⟨front, name, back, hmembers, hstored⟩ := members_store hplace hfound
        have hcontainers : isContainer (insert value (key :: next :: later) node) = true := by
          rw [isContainer_insert, hnode]
        have hsame := ih hcontainer hchild
        rw [members_adapt] at hmembers
        rw [spelledLeaves_of_isContainer hcontainers, hinsert, hstored,
          spelledLeaves_of_isContainer hnode, hmembers]
        simp only [List.flatMap_append, List.flatMap_cons, hsame]

/-- A way is spelled by the texts of its steps alone. -/
theorem spell_map_name (way : List Key) : spell ((way.map Key.text).map .name) = spell way := by
  cases way with
  | nil => rfl
  | cons first rest =>
    have hbrackets : ((rest.map Key.text).map Key.name).flatMap Key.bracketed =
        rest.flatMap Key.bracketed := by
      rw [List.map_map, List.flatMap_map]
      rfl
    rw [List.map_cons, List.map_cons, spell, spell, hbrackets]
    rfl

theorem pairs_congr {v w : Json} (h : spelledLeaves v = spelledLeaves w) : pairs v = pairs w := by
  have hpairs : ∀ u, pairs u =
      (spelledLeaves u).map fun leaf => (spell (leaf.1.map .name), leaf.2) := by
    intro u
    rw [pairs, spelledLeaves, List.map_map]
    refine List.map_congr_left fun leaf _ => ?_
    rw [Function.comp_apply, spell_map_name]
  rw [hpairs, hpairs, h]

/-! ### Which names turn an array -/

theorem exists_of_lookup_numberItems {name : String} {first : Nat} {items : List Json} {v : Json}
    (h : Json.lookup name (numberItems first items) = some v) :
    ∃ n, name = toString n ∧ n < first + items.length := by
  induction items generalizing first with
  | nil => cases h
  | cons item rest ih =>
    rw [numberItems, Json.lookup] at h
    rw [List.length_cons]
    split at h
    · rename_i hname
      exact ⟨first, hname.symm, by omega⟩
    · obtain ⟨n, hname, hlt⟩ := ih h
      exact ⟨n, hname, by omega⟩

theorem Blocked.rest {front rest : List Key} {node v : Json} (h : Blocked (front ++ rest) node)
    (hwalk : walk? front node = some v) (hv : isContainer v = true) : Blocked rest v := by
  induction front generalizing node with
  | nil =>
    obtain rfl : node = v := Option.some.inj hwalk
    exact h
  | cons key front ih =>
    obtain ⟨child, hstep, hwalk⟩ := Option.bind_eq_some_iff.1 hwalk
    have hnode : isContainer node = true := by
      by_contra hscalar
      rw [stepTo?_scalar (by simpa using hscalar)] at hstep
      cases hstep
    obtain ⟨found, hfound, hblocked⟩ := (blocked_cons hnode).1 h
    obtain rfl : child = found := Option.some.inj (hstep.symm.trans hfound)
    exact ih hblocked hwalk

/-- A blocked way that asks an array for a name asks for the number of one of its items. -/
theorem Blocked.exists_item {text : List Char} {back : List Key} {items : List Json}
    (h : Blocked (.name text :: back) (.array items)) :
    back ≠ [] ∧ ∃ n, text = (toString n).toList ∧ n < items.length := by
  obtain ⟨child, hstep, hblocked⟩ := (blocked_cons rfl).1 h
  have hback : back ≠ [] := by
    rintro rfl
    obtain ⟨front, last, v, hnil, hlast, -, -⟩ := hblocked
    exact hlast (List.append_eq_nil_iff.1 hnil.symm).2
  have hlookup : Json.lookup (String.ofList text) (numberItems 0 items) = some child := hstep
  obtain ⟨n, hname, hlt⟩ := exists_of_lookup_numberItems hlookup
  rw [Nat.zero_add] at hlt
  exact ⟨hback, n, by rw [← hname, String.toList_ofList], hlt⟩

/-! ### Names in brackets -/

theorem Key.eq_of_ofSegment {segment text : List Char} (h : Key.ofSegment segment = .name text) :
    segment = text := by
  unfold Key.ofSegment at h
  split at h
  · cases h
  · split at h
    · split at h
      · cases h
      · exact Key.name.inj h
    · exact Key.name.inj h

theorem lone_of_append {key : Key} {front back : List Key} {other : Key}
    (h : [key] = front ++ other :: back) : front = [] ∧ back = [] := by
  have hlength := congrArg List.length h
  simp only [List.length_append, List.length_cons, List.length_nil] at hlength
  exact ⟨List.length_eq_zero_iff.1 (by omega), List.length_eq_zero_iff.1 (by omega)⟩

/-- Of the names behind a bracket only the last one can be left over. -/
theorem ofSegment_of_readBrackets {depth : Nat} {cs text : List Char} {front back : List Key}
    (h : readBrackets depth cs = front ++ .name text :: back) (hback : back ≠ []) :
    Key.ofSegment text = .name text := by
  fun_induction readBrackets depth cs generalizing front with
  | case1 => exact absurd h.symm (by simp)
  | case2 rest _ => exact absurd (lone_of_append h).2 hback
  | case3 depth inner hclose ih =>
    cases front with
    | nil =>
      have hkey := (List.cons.inj h).1
      obtain rfl := Key.eq_of_ofSegment hkey
      exact hkey
    | cons first front => exact ih (List.cons.inj h).2
  | case4 depth inner hopen => exact absurd (lone_of_append h).2 hback
  | case5 => exact absurd (lone_of_append h).2 hback

theorem ofSegment_of_readKey {key text : List Char} {front back : List Key}
    (h : readKey key = front ++ .name text :: back) (hfront : front ≠ []) (hback : back ≠ []) :
    Key.ofSegment text = .name text := by
  simp only [readKey] at h
  split at h
  · split at h
    · exact ofSegment_of_readBrackets h hback
    · obtain ⟨first, later, rfl⟩ := List.exists_cons_of_ne_nil hfront
      exact ofSegment_of_readBrackets (List.cons.inj h).2 hback
  · exact absurd (lone_of_append h).1 hfront

/-- A number that is a name in brackets is too great for a position. -/
theorem lt_of_ofSegment {n : Nat}
    (h : Key.ofSegment (toString n).toList = .name (toString n).toList) : maxIndex < n := by
  by_contra hle
  have hbracketable : (Key.index n).Bracketable := Nat.le_of_not_lt hle
  have hindex := Key.ofSegment_text hbracketable
  rw [Key.text, h] at hindex
  cases hindex

/-! ### Blocked pairs of a text -/

theorem exists_insert_object (value : Json) (way : List Key) (members : Json.Members) :
    ∃ after, insert value way (.object members) = .object after := by
  have hadapt : ∀ key, adapt key (.object members) = .object members := by
    intro key
    unfold adapt
    split <;> rfl
  have hobject : isContainer (.object members) = true := rfl
  have hstore : ∀ place v, ∃ after, store place v (.object members) = .object after := by
    intro place v
    cases place <;> exact ⟨_, rfl⟩
  match way with
  | [] => exact ⟨members, rfl⟩
  | [key] =>
    obtain ⟨place, -, -, hinsert⟩ := insert_last hobject value key
    rw [hinsert, hadapt]
    exact hstore place _
  | key :: next :: rest =>
    obtain ⟨place, -, -, hinsert⟩ := insert_longer hobject value key next rest
    rw [hinsert, hadapt]
    split
    · exact hstore place _
    · split
      · exact hstore place _
      · exact ⟨members, rfl⟩

theorem exists_treeOf (pairs : List (List Char × List Char)) :
    ∃ members, treeOf pairs = .object members := by
  induction pairs using List.reverseRecOn with
  | nil => exact ⟨[], rfl⟩
  | append_singleton front pair ih =>
    obtain ⟨members, hfront⟩ := ih
    rw [treeOf_append, List.foldl_cons, List.foldl_nil, hfront, enter]
    split
    · exact ⟨members, rfl⟩
    · exact exists_insert_object _ _ members

/-- On the blocked way of a pair an array is turned only by the number of one of its items that is
too great for a position. -/
theorem turns_readKey_iff {key : List Char} {pairs : List (List Char × List Char)}
    (hblocked : Blocked (readKey key) (treeOf pairs)) :
    Turns (readKey key) (treeOf pairs) ↔
      ∃ front n back items, readKey key = front ++ .name (toString n).toList :: back ∧
        walk? front (treeOf pairs) = some (.array items) ∧ maxIndex < n ∧ n < items.length := by
  constructor
  · rintro ⟨front, text, back, items, hkey, hwalk⟩
    rw [hkey] at hblocked
    obtain ⟨hback, n, rfl, hlt⟩ := (hblocked.rest hwalk rfl).exists_item
    have hfront : front ≠ [] := by
      rintro rfl
      obtain ⟨members, htree⟩ := exists_treeOf pairs
      rw [htree] at hwalk
      cases hwalk
    have hsegment := ofSegment_of_readKey hkey hfront hback
    exact ⟨front, n, back, items, hkey, hwalk, lt_of_ofSegment hsegment, hlt⟩
  · rintro ⟨front, n, back, items, hkey, hwalk, -, -⟩
    exact ⟨front, _, back, items, hkey, hwalk⟩

/-- A pair whose way is blocked changes the tree exactly if its way asks an array for an item by a
number too great for a position; that array becomes an object.  The texts and the spelled ways to
them stay as they are in any case. -/
theorem parse_ne_iff_of_blocked {text after : String} {pair : List Char × List Char}
    (hpairs : namedPairs after = namedPairs text ++ [pair])
    (hblocked : Blocked (readKey pair.1) (parse text)) :
    (parse after ≠ parse text ↔
      ∃ front n back items, readKey pair.1 = front ++ .name (toString n).toList :: back ∧
        walk? front (parse text) = some (.array items) ∧ maxIndex < n ∧ n < items.length) ∧
    pairs (parse after) = pairs (parse text) := by
  have hname : pair.1 ≠ [] := by
    have hmem : pair ∈ namedPairs after := by
      rw [hpairs]
      exact List.mem_append_right _ List.mem_cons_self
    exact name_ne_nil_of_mem hmem
  have hafter : parse after =
      insert (.string (String.ofList pair.2)) (readKey pair.1) (parse text) := by
    rw [parse_eq_treeOf, hpairs, treeOf_append, ← parse_eq_treeOf, List.foldl_cons, List.foldl_nil,
      enter, if_neg (by simpa using hname)]
  have htree : isContainer (parse text) = true := by
    rw [parse_eq_treeOf]
    exact isContainer_treeOf _
  constructor
  · rw [hafter, Ne, insert_eq_self_iff _ htree hblocked, not_not]
    rw [parse_eq_treeOf] at hblocked ⊢
    exact turns_readKey_iff hblocked
  · rw [hafter]
    exact pairs_congr (spelledLeaves_insert _ htree hblocked)

theorem parse_scalar_kept :
    let pair : List Char × List Char := ("a[b]".toList, ['2'])
    namedPairs "a=1&a[b]=2" = namedPairs "a=1" ++ [pair] ∧
      Blocked (readKey pair.1) (parse "a=1") ∧
      (parse "a=1&a[b]=2" ≠ parse "a=1" ↔
        ∃ front n back items, readKey pair.1 = front ++ .name (toString n).toList :: back ∧
          walk? front (parse "a=1") = some (.array items) ∧ maxIndex < n ∧ n < items.length) ∧
      pairs (parse "a=1&a[b]=2") = pairs (parse "a=1") := by
  intro pair
  have hpairs : namedPairs "a=1&a[b]=2" = namedPairs "a=1" ++ [pair] := by decide +kernel
  have hkey : readKey pair.1 = [.name ['a']] ++ [.name ['b']] := by decide +kernel
  have hwalk : walk? [.name ['a']] (parse "a=1") = some (.string "1") := by cbv
  have hblocked : Blocked (readKey pair.1) (parse "a=1") :=
    ⟨_, _, _, hkey, List.cons_ne_nil _ _, hwalk, rfl⟩
  exact ⟨hpairs, hblocked, parse_ne_iff_of_blocked hpairs hblocked⟩

/-- The item 21 of an array is a text, and yet a pair that is blocked by it turns the array. -/
theorem parse_turned_array :
    ¬ ∀ (text after : String) (pair : List Char × List Char),
      namedPairs after = namedPairs text ++ [pair] →
        Blocked (readKey pair.1) (parse text) → parse after = parse text := by
  intro h
  have hpairs : namedPairs "a&a&a&a&a&a&a&a&a&a&a&a&a&a&a&a&a&a&a&a&a&a&a[21][b]=y" =
      namedPairs "a&a&a&a&a&a&a&a&a&a&a&a&a&a&a&a&a&a&a&a&a&a" ++ [("a[21][b]".toList, ['y'])] := by
    decide +kernel
  have hkey : readKey "a[21][b]".toList =
      [.name ['a'], .name ['2', '1']] ++ [.name ['b']] := by decide +kernel
  have hwalk : walk? [.name ['a'], .name ['2', '1']]
      (parse "a&a&a&a&a&a&a&a&a&a&a&a&a&a&a&a&a&a&a&a&a&a") = some (.string "") := by cbv
  have hbefore : (walk? [.name ['a']]
      (parse "a&a&a&a&a&a&a&a&a&a&a&a&a&a&a&a&a&a&a&a&a&a")).map Json.kind = some .array := by
    decide +kernel
  have hafter : (walk? [.name ['a']]
      (parse "a&a&a&a&a&a&a&a&a&a&a&a&a&a&a&a&a&a&a&a&a&a&a[21][b]=y")).map Json.kind =
        some .object := by decide +kernel
  have hsame := h _ _ _ hpairs ⟨_, _, _, hkey, List.cons_ne_nil _ _, hwalk, rfl⟩
  rw [hsame, hbefore] at hafter
  cases hafter

end TrackerTraffic.QueryString
