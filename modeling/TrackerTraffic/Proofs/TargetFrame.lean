import TrackerTraffic.Proofs.PlacesApart
import TrackerTraffic.Proofs.TargetConflict

/-!
# What a write leaves

A write puts its value where its keys lead and changes nothing that stands elsewhere.  Beside its
way there may be nulls afterwards where there was nothing, in front of a position beyond an array's
end; containers on the way keep what they hold in its order.  A second write at the same keys
undoes the first one.
-/

namespace TrackerTraffic.Target

/-! ### One key -/

theorem find?_store_self {key : Key} {root : Json} (hkey : key.Bounded)
    (h : opens key root = true) (value : Json) : find? key (store key value root) = some value := by
  cases root with
  | array items =>
    cases key with
    | name s => cases h
    | position p =>
      have hlength : p < (padded p items).length := by
        rw [length_padded]
        omega
      rw [store_array_position hkey]
      exact List.getElem?_set_self hlength
  | object members =>
    rw [store_object]
    exact Json.lookup_insert_self key.text value members
  | _ => cases h

/-- A key of another text leads where it led before, or to a `null` that fills an array up. -/
theorem find?_store_of_ne {key other : Key} (hkey : key.Bounded) (hne : key.text ≠ other.text)
    (value root : Json) :
    find? other (store key value root) = find? other root ∨
      ∃ q items, other = .position q ∧ root = .array items ∧ items.length ≤ q ∧
        find? other (store key value root) = some .null := by
  cases root with
  | array items =>
    cases key with
    | name s => exact .inl rfl
    | position p =>
      rw [store_array_position hkey]
      cases other with
      | name t => exact .inl rfl
      | position q =>
        have hpq : p ≠ q := fun heq => hne (congrArg (fun n => (Key.position n).text) heq)
        have hset : find? (.position q) (.array ((padded p items).set p value)) =
            (padded p items)[q]? := List.getElem?_set_ne hpq
        rw [hset]
        rcases getElem?_padded_cases p q items with hsame | ⟨hlength, hnull⟩
        · exact .inl hsame
        · exact .inr ⟨q, items, rfl, rfl, hlength, hnull⟩
  | object members =>
    rw [store_object]
    exact .inl (Json.lookup_insert_of_ne hne value members)
  | _ => exact .inl rfl

theorem position_eq_of_text {p q : Nat} (h : (Key.position p).text = (Key.position q).text) :
    p = q := by
  have htext : toString p = toString q := h
  have hread := Text.digits?_toString p
  rw [htext, Text.digits?_toString, Option.some.injEq] at hread
  exact hread.symm

/-- A key of the same text leads to the stored value too, but a name leads nowhere in an array. -/
theorem find?_store_of_text {key other : Key} (hkey : key.Bounded) (htext : key.text = other.text)
    {root : Json} (h : opens key root = true) (value : Json) :
    (find? other (store key value root) = some value ∧ find? other root = find? key root) ∨
      (find? other (store key value root) = none ∧ find? other root = none) := by
  cases root with
  | array items =>
    cases key with
    | name s => cases h
    | position p =>
      cases other with
      | name t =>
        rw [store_array_position hkey]
        exact .inr ⟨rfl, rfl⟩
      | position q =>
        obtain rfl := position_eq_of_text htext
        exact .inl ⟨find?_store_self hkey h value, rfl⟩
  | object members =>
    have hself := find?_store_self hkey h value
    rw [store_object, find?, htext] at hself
    refine .inl ⟨?_, ?_⟩
    · rw [store_object, htext]
      exact hself
    · rw [find?, find?, htext]
  | _ => cases h

/-! ### Other places -/

/-- The keys lead where they led before, or to a `null` that fills an array up. -/
def Kept (others : List Key) (root root' : Json) : Prop :=
  follow? others root' = follow? others root ∨
    ∃ front q items, others = front ++ [.position q] ∧ follow? front root = some (.array items) ∧
      items.length ≤ q ∧ follow? others root' = some .null

theorem kept_beside {key other : Key} (hkey : key.Bounded) (hne : key.text ≠ other.text)
    (later : List Key) (value root : Json) :
    Kept (other :: later) root (store key value root) := by
  rcases find?_store_of_ne hkey hne value root with hsame | ⟨q, items, rfl, rfl, hlength, hnull⟩
  · exact .inl (by rw [follow?, follow?, hsame])
  · by_cases hlast : later = []
    · subst hlast
      exact .inr ⟨[], q, items, rfl, rfl, hlength, by rw [follow?, hnull]; rfl⟩
    · have hnone : find? (.position q) (.array items) = none := List.getElem?_eq_none hlength
      have hbelow : follow? later .null = none := by
        obtain ⟨next, rest, rfl⟩ := List.exists_cons_of_ne_nil hlast
        rfl
      refine .inl ?_
      rw [follow?, follow?, hnull, hnone, Option.bind_some, hbelow, Option.bind_none]

theorem kept_below {other : Key} {later : List Key} {root root' below : Json}
    (hlater : later ≠ []) (hafter : find? other root' = some below)
    (h : Kept later (fillNull ((find? other root).getD .null)) below) :
    Kept (other :: later) root root' := by
  rcases h with hsame | ⟨front, q, items, rfl, hfront, hlength, hnull⟩
  · rw [follow?_fillNull hlater] at hsame
    exact .inl (by rw [follow?, follow?, hafter, Option.bind_some, hsame])
  · have harray := bind_follow?_of_fillNull (by simp) hfront
    exact .inr ⟨other :: front, q, items, rfl, harray, hlength,
      by rw [follow?, hafter, Option.bind_some, hnull]⟩

/-- A write keeps what stands at every place apart from it. -/
theorem kept_place {keys others : List Key} (hkeys : ∀ key ∈ keys, key.Bounded)
    (hapart : Apart (keys.map Key.text) (others.map Key.text)) {value root root' : Json}
    (hplace : place value keys root = some root') : Kept others root root' := by
  -- along the keys that are shared, to the container in which the ways part
  induction keys generalizing others root root' with
  | nil => exact absurd hapart not_apart_nil_left
  | cons key rest ih =>
    cases others with
    | nil => exact absurd hapart not_apart_nil_right
    | cons other later =>
      obtain ⟨hkey, hrest⟩ := List.forall_mem_cons.1 hkeys
      obtain ⟨hopen, below, hbelow, rfl⟩ := place_cons_eq_some_iff.1 hplace
      by_cases htext : key.text = other.text
      · have htail : Apart (rest.map Key.text) (later.map Key.text) := by
          rw [List.map_cons, List.map_cons, htext] at hapart
          exact hapart.tail
        have hlater : later ≠ [] := by simpa using htail.symm.ne_nil
        have hkept := ih hrest htail hbelow
        rw [child_of_opens hkey hopen] at hkept
        rcases find?_store_of_text hkey htext hopen below with ⟨hafter, hbefore⟩ | ⟨hafter, hbefore⟩
        · rw [← hbefore] at hkept
          exact kept_below hlater hafter hkept
        · exact .inl (by rw [follow?, follow?, hafter, hbefore])
      · exact kept_beside hkey htext later below root

theorem Kept.eq_some {others : List Key} {root root' node : Json} (h : Kept others root root')
    (hnode : follow? others root = some node) : follow? others root' = some node := by
  rcases h with hsame | ⟨front, q, items, rfl, hfront, hlength, -⟩
  · rw [hsame, hnode]
  · have hnone : find? (.position q) (.array items) = none := List.getElem?_eq_none hlength
    rw [follow?_append, hfront, Option.bind_some, follow?, hnone] at hnode
    cases hnode

/-! ### Containers on the way -/

/-- The container has kept its names in their order, or its items. -/
def Grown : Json → Json → Prop
  | .object members, .object members' => members.map Prod.fst <+: members'.map Prod.fst
  | .array items, .array items' => items.length ≤ items'.length
  | _, _ => False

theorem Grown.refl {v : Json} (h : isContainer v = true) : Grown v v := by
  cases v with
  | array items => exact Nat.le_refl _
  | object members => exact List.prefix_rfl
  | _ => cases h

theorem Grown.exists_members {members : Json.Members} {v : Json} (h : Grown (.object members) v) :
    ∃ members', v = .object members' ∧ members.map Prod.fst <+: members'.map Prod.fst := by
  cases v with
  | object members' => exact ⟨members', rfl, h⟩
  | _ => exact absurd h id

theorem Grown.exists_items {items : List Json} {v : Json} (h : Grown (.array items) v) :
    ∃ items', v = .array items' ∧ items.length ≤ items'.length := by
  cases v with
  | array items' => exact ⟨items', rfl, h⟩
  | _ => exact absurd h id

theorem names_insert (name : String) (value : Json) (members : Json.Members) :
    members.map Prod.fst <+: (Json.insert name value members).map Prod.fst := by
  rcases Json.insert_cases name value members with
    ⟨-, happend⟩ | ⟨front, old, back, -, rfl, hreplace⟩
  · rw [happend, List.map_append]
    exact List.prefix_append _ _
  · rw [hreplace, List.map_append, List.map_append]
    exact List.prefix_rfl

theorem grown_store {key : Key} {root : Json} (hkey : key.Bounded) (h : opens key root = true)
    (value : Json) : Grown root (store key value root) := by
  cases root with
  | array items =>
    cases key with
    | name s => cases h
    | position p =>
      have hlength : items.length ≤ ((padded p items).set p value).length := by
        rw [List.length_set, length_padded]
        omega
      rw [store_array_position hkey]
      exact hlength
  | object members =>
    rw [store_object]
    exact names_insert key.text value members
  | _ => cases h

/-- A container that is not below the place of a write is still there, and has grown at most. -/
theorem exists_grown {keys way : List Key} (hkeys : ∀ key ∈ keys, key.Bounded)
    {value root root' : Json} (hplace : place value keys root = some root')
    (hway : ¬ keys.map Key.text <+: way.map Key.text) {node : Json}
    (hfollow : follow? way root = some node) (hnode : isContainer node = true) :
    ∃ node', follow? way root' = some node' ∧ Grown node node' := by
  induction keys generalizing way root root' with
  | nil => exact absurd List.nil_prefix hway
  | cons key rest ih =>
    obtain ⟨hkey, hrest⟩ := List.forall_mem_cons.1 hkeys
    obtain ⟨hopen, below, hbelow, rfl⟩ := place_cons_eq_some_iff.1 hplace
    -- the way ends here, goes on along the keys, or turns off beside them
    cases way with
    | nil =>
      obtain rfl := Option.some.inj hfollow
      exact ⟨_, rfl, grown_store hkey hopen below⟩
    | cons other later =>
      by_cases htext : key.text = other.text
      · have htail : ¬ rest.map Key.text <+: later.map Key.text := by
          rwa [List.map_cons, List.map_cons, htext, List.cons_prefix_cons, eq_self, true_and]
            at hway
        rw [follow?] at hfollow
        rcases find?_store_of_text hkey htext hopen below with ⟨hafter, hbefore⟩ | ⟨-, hbefore⟩
        · have hnull : node ≠ .null := by
            rintro rfl
            cases hnode
          rw [hbefore] at hfollow
          have hstart := follow?_fillNull_of_bind hnull hfollow
          rw [← child_of_opens hkey hopen] at hstart
          obtain ⟨node', hnode', hgrown⟩ := ih hrest hbelow htail hstart
          exact ⟨node', by rw [follow?, hafter, Option.bind_some, hnode'], hgrown⟩
        · rw [hbefore] at hfollow
          cases hfollow
      · have hkept := (kept_beside hkey htext later below root).eq_some hfollow
        exact ⟨node, hkept, .refl hnode⟩

/-! ### The place itself -/

theorem follow?_place {keys : List Key} (hkeys : ∀ key ∈ keys, key.Bounded)
    {value root root' : Json} (hplace : place value keys root = some root') :
    follow? keys root' = some value := by
  induction keys generalizing root root' with
  | nil => rw [follow?, ← hplace, place]
  | cons key rest ih =>
    obtain ⟨hkey, hrest⟩ := List.forall_mem_cons.1 hkeys
    obtain ⟨hopen, below, hbelow, rfl⟩ := place_cons_eq_some_iff.1 hplace
    rw [follow?, find?_store_self hkey hopen, Option.bind_some, ih hrest hbelow]

/-- Of two values placed at the same keys only the second one counts. -/
theorem place_place {keys : List Key} (hkeys : ∀ key ∈ keys, key.Bounded) {v root root' : Json}
    (hplace : place v keys root = some root') (w : Json) :
    place w keys root' = place w keys root := by
  induction keys generalizing root root' with
  | nil => rfl
  | cons key rest ih =>
    obtain ⟨hkey, hrest⟩ := List.forall_mem_cons.1 hkeys
    obtain ⟨hopen, below, hbelow, rfl⟩ := place_cons_eq_some_iff.1 hplace
    -- at the end of the keys nothing is looked at; before it the first write has left a container
    have hagain : place w rest (fillNull below) = place w rest (fillNull (child key root)) := by
      by_cases hlast : rest = []
      · subst hlast
        rfl
      · rw [fillNull_place hrest hlast hbelow, ih hrest hbelow]
    have hstore : (store key · (store key below root)) = (store key · root) :=
      funext fun value => store_store hkey below value root
    rw [place, place, opens_store hkey, hopen, if_pos rfl, if_pos rfl,
      child_store_self hkey hopen, hagain, hstore]

theorem assignAt_assignAt {keys : List Key} (hkeys : ∀ key ∈ keys, key.Bounded) (hne : keys ≠ [])
    {v root root' : Json} (h : assignAt v keys root = (root', .written)) (w : Json) :
    assignAt w keys root' = assignAt w keys root := by
  have hplace := (assignAt_eq_written_iff hkeys hne v root root').1 h
  have hopen : ¬ Obstructed keys root := by
    rw [← place_eq_none_iff hkeys hne v root, hplace]
    simp
  obtain ⟨result, hresult⟩ : ∃ result, place w keys root = some result := by
    rw [← Option.ne_none_iff_exists']
    exact fun hnone => hopen ((place_eq_none_iff hkeys hne w root).1 hnone)
  rw [(assignAt_eq_written_iff hkeys hne w root result).2 hresult,
    assignAt_eq_written_iff hkeys hne w root' result, place_place hkeys hplace w, hresult]

/-! ### The laws of writing -/

/-- A value that was written stands where it was written.  At all places apart from it stands what
stood there before, or else nothing, or a `null` that fills an array up; names keep their order and
arrays their items.  Written once more, another value stands there as if it were the only one. -/
theorem assign_written {source : String} {target : Target} (hparse : parse source = .ok target)
    (hkeys : ∀ key ∈ target.keys, key.Bounded) {root root' v : Json}
    (h : target.assign root v = (root', .written)) :
    follow? target.keys root' = some v ∧
    (∀ others, Apart (target.keys.map Key.text) (others.map Key.text) →
      (∀ old, follow? others root = some old → follow? others root' = some old) ∧
      (follow? others root = none → follow? others root' = none ∨
        follow? others root' = some .null ∧ ∃ front q items, others = front ++ [.position q] ∧
          follow? front root = some (.array items) ∧ items.length ≤ q)) ∧
    (∀ way, ¬ target.keys.map Key.text <+: way.map Key.text →
      (∀ members, follow? way root = some (.object members) →
        ∃ members', follow? way root' = some (.object members') ∧
          members.map Prod.fst <+: members'.map Prod.fst) ∧
      (∀ items, follow? way root = some (.array items) →
        ∃ items', follow? way root' = some (.array items') ∧ items.length ≤ items'.length)) ∧
    ∀ w, target.assign root' w = target.assign root w := by
  have hne := keys_ne_nil_of_parse hparse
  have hplace := (assignAt_eq_written_iff hkeys hne v root root').1 h
  refine ⟨follow?_place hkeys hplace, ?_, ?_, assignAt_assignAt hkeys hne h⟩
  · intro others hapart
    have hkept := kept_place hkeys hapart hplace
    refine ⟨fun old hold => hkept.eq_some hold, fun hnone => ?_⟩
    rcases hkept with hsame | ⟨front, q, items, hothers, hfront, hlength, hnull⟩
    · exact .inl (hsame.trans hnone)
    · exact .inr ⟨hnull, front, q, items, hothers, hfront, hlength⟩
  · intro way hway
    refine ⟨fun members hmembers => ?_, fun items hitems => ?_⟩
    · obtain ⟨node, hnode, hgrown⟩ := exists_grown hkeys hplace hway hmembers rfl
      obtain ⟨members', rfl, hnames⟩ := hgrown.exists_members
      exact ⟨members', hnode, hnames⟩
    · obtain ⟨node, hnode, hgrown⟩ := exists_grown hkeys hplace hway hitems rfl
      obtain ⟨items', rfl, hlength⟩ := hgrown.exists_items
      exact ⟨items', hnode, hlength⟩

/-- A write two places behind an array's end: the item that was there stays, one `null` fills up. -/
theorem assign_written_behind_end :
    let root : Json := .object [("a", .array [.string "x"]), ("n", .null)]
    let root' : Json :=
      .object [("a", .array [.string "x", .null, .object [("b", .bool true)]]), ("n", .null)]
    ∃ target, parse "a[2].b" = .ok target ∧ (∀ key ∈ target.keys, key.Bounded) ∧
      target.assign root (.bool true) = (root', .written) ∧
      follow? target.keys root' = some (.bool true) ∧
      Apart (target.keys.map Key.text) ([.name "a", .name "0"].map Key.text) ∧
      follow? [.name "a", .position 0] root' = some (.string "x") ∧
      target.assign root' .null = target.assign root .null := by
  intro root root'
  have hparse : parse "a[2].b" = .ok ⟨"a[2].b", [.name "a", .position 2, .name "b"]⟩ := by
    decide +kernel
  have hkeys : ∀ key ∈ [Key.name "a", .position 2, .name "b"], key.Bounded := by
    simp [Key.Bounded]
  have hwritten : Target.assign ⟨"a[2].b", [.name "a", .position 2, .name "b"]⟩ root
      (.bool true) = (root', .written) := rfl
  have hapart : ∀ key : Key, key.text = "0" →
      Apart (["a", "2", "b"] : List String) (["a", key.text] : List String) := by
    intro key hkey
    rw [hkey]
    exact ⟨by decide, by decide⟩
  obtain ⟨hself, hothers, -, hagain⟩ := assign_written hparse hkeys hwritten
  exact ⟨_, hparse, hkeys, hwritten, hself, hapart (.name "0") rfl,
    (hothers [.name "a", .position 0] (hapart (.position 0) rfl)).1 _ rfl, hagain .null⟩

end TrackerTraffic.Target
