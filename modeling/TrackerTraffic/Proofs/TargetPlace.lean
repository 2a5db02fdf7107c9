import TrackerTraffic.Proofs.MemberOrder
import TrackerTraffic.Proofs.TargetWalk

/-!
# Values in their places

Where a container opens for a key, a write makes room at the key and goes on with what stands
there.  So a write along a way of keys is the placing of a value at its end: it comes to a tree
exactly if every container on the way opens, and only what stands at the keys is rebuilt.
-/

namespace TrackerTraffic.Target

/-! ### One key -/

/-- The key is a name, or a position with another one behind it. -/
def Key.Bounded : Key → Prop
  | .name _ => True
  | .position p => p + 1 < 2 ^ 64

/-- What a read path finds under the text of a key, and `null` where it finds nothing. -/
def child (key : Key) (root : Json) : Json := (Path.childNamed key.text root).getD .null

/-- There is room for the key in the value, or room can be made. -/
def opens (key : Key) : Json → Bool
  | .array _ =>
    match key with
    | .position _ => true
    | .name _ => false
  | .object _ => true
  | _ => false

/-- The value with another one at a key. -/
def store (key : Key) (value root : Json) : Json := put key value (makeRoom key root).1

/-- Items up to a position, with nulls where there were none. -/
def padded (position : Nat) (items : List Json) : List Json :=
  items ++ List.replicate (position + 1 - items.length) .null

theorem unsigned?_text {p : Nat} (h : (Key.position p).Bounded) :
    Text.unsigned? (Key.position p).text.toList = some p :=
  Text.unsigned?_toString (Nat.lt_of_succ_lt h)

theorem getElem?_padded_cases (p q : Nat) (items : List Json) :
    (padded p items)[q]? = items[q]? ∨
      items.length ≤ q ∧ (padded p items)[q]? = some .null := by
  rw [padded, List.getElem?_append]
  split
  · exact .inl rfl
  · rename_i hq
    rw [List.getElem?_replicate]
    split
    · exact .inr ⟨Nat.le_of_not_lt hq, rfl⟩
    · exact .inl (List.getElem?_eq_none (Nat.le_of_not_lt hq)).symm

theorem getElem?_padded (p q : Nat) (items : List Json) :
    ((padded p items)[q]?).getD .null = (items[q]?).getD .null := by
  rcases getElem?_padded_cases p q items with hsame | ⟨hlength, hnull⟩
  · rw [hsame]
  · rw [hnull, List.getElem?_eq_none hlength]
    rfl

theorem length_padded (p : Nat) (items : List Json) :
    (padded p items).length = max items.length (p + 1) := by
  rw [padded, List.length_append, List.length_replicate]
  omega

theorem child_array_position {p : Nat} (h : (Key.position p).Bounded) (items : List Json) :
    child (.position p) (.array items) = (items[p]?).getD .null := by
  rw [child, Path.childNamed, unsigned?_text h, Option.bind_some]

theorem child_object (key : Key) (members : Json.Members) :
    child key (.object members) = (Json.lookup key.text members).getD .null :=
  rfl

theorem makeRoom_array {p : Nat} (h : (Key.position p).Bounded) (items : List Json) :
    makeRoom (.position p) (.array items) =
      (.array (padded p items), some (child (.position p) (.array items))) := by
  have hword : (p + 1) % pow2 64 = p + 1 := Nat.mod_eq_of_lt h
  have hroom : (if items.length ≤ p then resize items ((p + 1) % pow2 64) else items) =
      padded p items := by
    rw [hword, padded]
    split
    · rename_i hlength
      rw [resize, List.take_of_length_le (by omega)]
    · rename_i hlength
      have hnone : p + 1 - items.length = 0 := by omega
      rw [hnone, List.replicate_zero, List.append_nil]
  have hlength : p < (padded p items).length := by
    rw [length_padded]
    omega
  have hitem := getElem?_padded p p items
  rw [List.getElem?_eq_getElem hlength, Option.getD_some] at hitem
  simp only [makeRoom, hroom, List.getElem?_eq_getElem hlength, hitem, child_array_position h]

theorem makeRoom_of_opens {key : Key} {root : Json} (hkey : key.Bounded)
    (h : opens key root = true) :
    makeRoom key root = ((makeRoom key root).1, some (child key root)) := by
  cases root with
  | array items =>
    cases key with
    | name s => cases h
    | position p => rw [makeRoom_array hkey]
  | object members =>
    rw [makeRoom, child_object]
    cases Json.lookup key.text members <;> rfl
  | _ => cases h

theorem makeRoom_of_not_opens {key : Key} {root : Json} (h : opens key root = false) :
    makeRoom key root = (root, none) := by
  cases root with
  | array items =>
    cases key with
    | name s => rfl
    | position p => cases h
  | object members => cases h
  | _ => rfl

theorem store_object (key : Key) (value : Json) (members : Json.Members) :
    store key value (.object members) = .object (Json.insert key.text value members) := by
  rw [store, makeRoom]
  cases Json.lookup key.text members with
  | none => exact congrArg Json.object (Json.insert_insert key.text .null value members)
  | some old => rfl

theorem store_array_position {p : Nat} (h : (Key.position p).Bounded) (value : Json)
    (items : List Json) :
    store (.position p) value (.array items) = .array ((padded p items).set p value) := by
  rw [store, makeRoom_array h]
  rfl

theorem store_of_not_opens {key : Key} {root : Json} (h : opens key root = false) (value : Json) :
    store key value root = root := by
  rw [store, makeRoom_of_not_opens h]
  cases root with
  | array items =>
    cases key with
    | name s => rfl
    | position p => cases h
  | object members => cases h
  | _ => rfl

/-! ### What a stored value leaves -/

theorem opens_store {key : Key} (h : key.Bounded) (other : Key) (value root : Json) :
    opens other (store key value root) = opens other root := by
  cases root with
  | array items =>
    cases key with
    | name s => rfl
    | position p =>
      rw [store_array_position h]
      rfl
  | object members =>
    rw [store_object]
    rfl
  | _ => rfl

theorem fillNull_store {key : Key} {root : Json} (hkey : key.Bounded) (h : opens key root = true)
    (value : Json) : fillNull (store key value root) = store key value root := by
  cases hstored : store key value root with
  | null =>
    have hopens := opens_store hkey key value root
    rw [hstored, h] at hopens
    cases hopens
  | _ => rfl

theorem child_store_self {key : Key} {root : Json} (hkey : key.Bounded) (h : opens key root = true)
    (value : Json) : child key (store key value root) = value := by
  cases root with
  | array items =>
    cases key with
    | name s => cases h
    | position p =>
      have hlength : p < (padded p items).length := by
        rw [length_padded]
        omega
      rw [store_array_position hkey, child_array_position hkey, List.getElem?_set_self hlength,
        Option.getD_some]
  | object members =>
    rw [store_object, child_object, Json.lookup_insert_self, Option.getD_some]
  | _ => cases h

theorem store_store {key : Key} (hkey : key.Bounded) (first value root : Json) :
    store key value (store key first root) = store key value root := by
  cases root with
  | array items =>
    cases key with
    | name s => rfl
    | position p =>
      have hlength : p + 1 - ((padded p items).set p first).length = 0 := by
        rw [List.length_set, length_padded]
        omega
      rw [store_array_position hkey, store_array_position hkey, store_array_position hkey,
        padded, hlength, List.replicate_zero, List.append_nil, List.set_set]
  | object members =>
    rw [store_object, store_object, store_object, Json.insert_insert]
  | _ => rfl

/-! ### Ways of keys -/

/-- The tree with a value at the end of a way, unless something stands in the way. -/
def place (value : Json) : List Key → Json → Option Json
  | [], _ => some value
  | key :: rest, root =>
    if opens key root then
      (place value rest (fillNull (child key root))).map (store key · root)
    else none

theorem place_cons_eq_some_iff {key : Key} {rest : List Key} {value root root' : Json} :
    place value (key :: rest) root = some root' ↔ opens key root = true ∧
      ∃ below, place value rest (fillNull (child key root)) = some below ∧
        store key below root = root' := by
  rw [place]
  split
  · next hopen => simp [hopen]
  · next hclosed => simp [hclosed]

/-! ### Writing along a way -/

theorem assignAt_of_not_opens {key : Key} {root : Json} (h : opens key root = false)
    (value : Json) (rest : List Key) : assignAt value (key :: rest) root = (root, .conflict) := by
  cases rest with
  | nil => rw [assignAt, makeRoom_of_not_opens h]
  | cons next later =>
    rw [assignAt, makeRoom_of_not_opens h]
    simp

theorem assignAt_last {key : Key} {root : Json} (hkey : key.Bounded) (h : opens key root = true)
    (value : Json) : assignAt value [key] root = (store key value root, .written) := by
  rw [assignAt, makeRoom_of_opens hkey h]
  rfl

theorem assignAt_next {key : Key} {root : Json} (hkey : key.Bounded) (h : opens key root = true)
    (value : Json) {rest : List Key} (hrest : rest ≠ []) :
    assignAt value (key :: rest) root =
      if isContainer (fillNull (child key root)) then
        let below := assignAt value rest (fillNull (child key root))
        (store key below.1 root, below.2)
      else ((makeRoom key root).1, .conflict) := by
  rw [assignAt]
  · rw [makeRoom_of_opens hkey h]
    rfl
  · simpa using hrest

theorem place_of_not_isContainer {root : Json} (h : isContainer root = false) {keys : List Key}
    (hne : keys ≠ []) (value : Json) : place value keys root = none := by
  obtain ⟨key, rest, rfl⟩ := List.exists_cons_of_ne_nil hne
  cases root with
  | array items => cases h
  | object members => cases h
  | _ => rfl

/-- A write at a target reaches the end of its keys exactly if the value finds its place. -/
theorem assignAt_eq_written_iff {keys : List Key} (hkeys : ∀ key ∈ keys, key.Bounded)
    (hne : keys ≠ []) (value root root' : Json) :
    assignAt value keys root = (root', .written) ↔ place value keys root = some root' := by
  induction keys generalizing root root' with
  | nil => exact absurd rfl hne
  | cons key rest ih =>
    obtain ⟨hkey, hrest⟩ := List.forall_mem_cons.1 hkeys
    rw [place]
    cases hopen : opens key root with
    | false => simp [assignAt_of_not_opens hopen]
    | true =>
      -- the last key replaces what stands there; any key before it needs a container there
      by_cases hlast : rest = []
      · subst hlast
        simp [assignAt_last hkey hopen, place]
      · rw [assignAt_next hkey hopen value hlast, if_pos rfl]
        cases hchild : isContainer (fillNull (child key root)) with
        | false => simp [place_of_not_isContainer hchild hlast]
        | true =>
          simp only [if_true, Option.map_eq_some_iff, ← ih hrest hlast, Prod.mk.injEq]
          constructor
          · rintro ⟨rfl, hwritten⟩
            exact ⟨_, Prod.ext rfl hwritten, rfl⟩
          · rintro ⟨below, hbelow, rfl⟩
            rw [hbelow]
            exact ⟨rfl, rfl⟩

/-! ### Two writes at one way -/

theorem fillNull_place {keys : List Key} (hkeys : ∀ key ∈ keys, key.Bounded) (hne : keys ≠ [])
    {value root root' : Json} (h : place value keys root = some root') :
    fillNull root' = root' := by
  obtain ⟨key, rest, rfl⟩ := List.exists_cons_of_ne_nil hne
  obtain ⟨hopen, below, -, rfl⟩ := place_cons_eq_some_iff.1 h
  exact fillNull_store (hkeys key List.mem_cons_self) hopen below

/-- Two writes below one key are the two writes one after the other at what stands there. -/
theorem place_place_below {key : Key} (hkey : key.Bounded) {rest later : List Key}
    (hrest : ∀ k ∈ rest, k.Bounded) (hne : rest ≠ []) (v w root : Json) :
    (place v (key :: rest) root).bind (place w (key :: later)) =
      if opens key root then
        ((place v rest (fillNull (child key root))).bind (place w later)).map (store key · root)
      else none := by
  rw [place]
  split
  · rename_i hopen
    cases hfirst : place v rest (fillNull (child key root)) with
    | none => rfl
    | some below =>
      have hbelow := fillNull_place hrest hne hfirst
      simp only [Option.map_some, Option.bind_some, place, opens_store hkey, hopen, if_true,
        child_store_self hkey hopen, hbelow, store_store hkey]
  · rfl

end TrackerTraffic.Target
