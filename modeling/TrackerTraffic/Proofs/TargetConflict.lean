import TrackerTraffic.Proofs.TargetPlace
import TrackerTraffic.Proofs.TargetReadBack

/-!
# Refused writes

A write is refused exactly if something that stands in the tree already does not let it through.
What a write makes on its way is an object, and objects let every key through: so it is refused,
if at all, before it has made anything, and the tree is left as it was.
-/

namespace TrackerTraffic.Target

/-! ### Looking up -/

/-- What stands at a key: an item at a position, a member under the key's text. -/
def find? (key : Key) : Json → Option Json
  | .array items =>
    match key with
    | .position p => items[p]?
    | .name _ => none
  | .object members => Json.lookup key.text members
  | _ => none

def follow? : List Key → Json → Option Json
  | [], root => some root
  | key :: rest, root => (find? key root).bind (follow? rest)

theorem follow?_append (front back : List Key) (root : Json) :
    follow? (front ++ back) root = (follow? front root).bind (follow? back) := by
  induction front generalizing root with
  | nil => rfl
  | cons key rest ih =>
    rw [List.cons_append, follow?, follow?, Option.bind_assoc]
    exact congrArg _ (funext ih)

theorem child_of_opens {key : Key} {root : Json} (hkey : key.Bounded) (h : opens key root = true) :
    child key root = (find? key root).getD .null := by
  cases root with
  | array items =>
    cases key with
    | name s => cases h
    | position p => exact child_array_position hkey items
  | object members => exact child_object key members
  | _ => cases h

/-- Nothing stands below what is missing, below `null` or below the object put in their place. -/
theorem follow?_fillNull {keys : List Key} (hne : keys ≠ []) (found : Option Json) :
    follow? keys (fillNull (found.getD .null)) = found.bind (follow? keys) := by
  obtain ⟨key, rest, rfl⟩ := List.exists_cons_of_ne_nil hne
  cases found with
  | none => rfl
  | some v => cases v <;> rfl

theorem exists_of_fillNull_ne {found : Option Json}
    (h : fillNull (found.getD .null) ≠ .object []) : ∃ v, found = some v ∧ fillNull v = v := by
  cases found with
  | none => exact absurd rfl h
  | some v =>
    cases v with
    | null => exact absurd rfl h
    | _ => exact ⟨_, rfl, rfl⟩

theorem bind_follow?_of_fillNull {keys : List Key} {found : Option Json} {node : Json}
    (hnode : node ≠ .object []) (h : follow? keys (fillNull (found.getD .null)) = some node) :
    found.bind (follow? keys) = some node := by
  by_cases hne : keys = []
  · subst hne
    obtain rfl := Option.some.inj h
    obtain ⟨v, rfl, hfill⟩ := exists_of_fillNull_ne hnode
    rw [Option.getD_some, hfill]
    rfl
  · rwa [follow?_fillNull hne] at h

theorem follow?_fillNull_of_bind {keys : List Key} {found : Option Json} {node : Json}
    (hnode : node ≠ .null) (h : found.bind (follow? keys) = some node) :
    follow? keys (fillNull (found.getD .null)) = some node := by
  by_cases hne : keys = []
  · subst hne
    obtain ⟨v, rfl, hv⟩ := Option.bind_eq_some_iff.1 h
    obtain rfl := Option.some.inj hv
    rw [Option.getD_some, follow?]
    cases v with
    | null => exact absurd rfl hnode
    | _ => rfl
  · rwa [follow?_fillNull hne]

/-- No room has to be made for a key at which something stands. -/
theorem makeRoom_of_find? {key : Key} {root v : Json} (h : find? key root = some v) :
    makeRoom key root = (root, some v) := by
  cases root with
  | array items =>
    cases key with
    | name s => cases h
    | position p =>
      have hitem : items[p]? = some v := h
      obtain ⟨hp, -⟩ := List.getElem?_eq_some_iff.1 hitem
      simp only [makeRoom, if_neg (Nat.not_le.2 hp), hitem]
  | object members =>
    have hlookup : Json.lookup key.text members = some v := h
    simp only [makeRoom, hlookup]
  | _ => cases h

theorem store_of_find? {key : Key} {root v : Json} (h : find? key root = some v) :
    store key v root = root := by
  rw [store, makeRoom_of_find? h]
  cases root with
  | array items =>
    cases key with
    | name s => cases h
    | position p =>
      obtain ⟨hp, hv⟩ := List.getElem?_eq_some_iff.1 h
      rw [put, ← hv, List.set_getElem_self]
  | object members =>
    obtain ⟨front, back, hmembers, hinsert⟩ := Json.insert_of_lookup h
    rw [put, hinsert v, ← hmembers]
  | _ => cases h

/-! ### What stands in the way -/

/-- The value does not let the key through: no scalar but `null` does, and no array for a name. -/
def Bars (key : Key) : Json → Prop
  | .null => False
  | .object _ => False
  | .array _ => ∃ text, key = .name text
  | _ => True

/-- The root is no container, or a value met on the way does not let the next key through. -/
def Obstructed (keys : List Key) (root : Json) : Prop :=
  isContainer root = false ∨
    ∃ front key back node, keys = front ++ key :: back ∧ follow? front root = some node ∧
      Bars key node

theorem opens_iff {key : Key} {root : Json} :
    opens key root = true ↔ isContainer root = true ∧ ¬ Bars key root := by
  cases root with
  | array items => cases key <;> simp [opens, isContainer, Bars]
  | _ => simp [opens, isContainer, Bars]

theorem bars_of_not_isContainer {v : Json} (hfill : fillNull v = v) (h : isContainer v = false)
    (key : Key) : Bars key v := by
  cases v with
  | null => cases hfill
  | array items => cases h
  | object members => cases h
  | _ => trivial

theorem ne_null_of_bars {key : Key} {v : Json} (h : Bars key v) : v ≠ .null := by
  rintro rfl
  exact h

theorem ne_empty_of_bars {key : Key} {v : Json} (h : Bars key v) : v ≠ .object [] := by
  rintro rfl
  exact h

theorem ne_empty_of_not_isContainer {v : Json} (h : isContainer v = false) : v ≠ .object [] := by
  rintro rfl
  cases h

/-- What stands in the way behind an open key stands in the way from what the key leads to. -/
theorem obstructed_cons {key : Key} {rest : List Key} {root : Json} (h : opens key root = true)
    (hne : rest ≠ []) :
    Obstructed (key :: rest) root ↔
      Obstructed rest (fillNull ((find? key root).getD .null)) := by
  obtain ⟨hroot, hbars⟩ := opens_iff.1 h
  constructor
  · rintro (hscalar | ⟨front, k, back, node, hsplit, hfollow, hnode⟩)
    · rw [hroot] at hscalar
      cases hscalar
    · cases front with
      | nil =>
        obtain ⟨rfl, -⟩ := List.cons.inj hsplit
        obtain rfl := Option.some.inj hfollow
        exact absurd hnode hbars
      | cons first front =>
        obtain ⟨rfl, hrest⟩ := List.cons.inj hsplit
        have hbelow := follow?_fillNull_of_bind (ne_null_of_bars hnode) hfollow
        exact .inr ⟨front, k, back, node, hrest, hbelow, hnode⟩
  · rintro (hscalar | ⟨front, k, back, node, rfl, hfollow, hnode⟩)
    · -- a root that is no container was found at the key, since what is made there is one
      obtain ⟨k, back, rfl⟩ := List.exists_cons_of_ne_nil hne
      obtain ⟨v, hv, hfill⟩ := exists_of_fillNull_ne (ne_empty_of_not_isContainer hscalar)
      rw [hv, Option.getD_some, hfill] at hscalar
      exact .inr ⟨[key], k, back, v, rfl, by rw [follow?, hv]; rfl,
        bars_of_not_isContainer hfill hscalar k⟩
    · have hbelow := bind_follow?_of_fillNull (ne_empty_of_bars hnode) hfollow
      exact .inr ⟨key :: front, k, back, node, rfl, hbelow, hnode⟩

theorem obstructed_of_not_opens {key : Key} {root : Json} (h : opens key root = false)
    (rest : List Key) : Obstructed (key :: rest) root := by
  cases hroot : isContainer root with
  | false => exact .inl hroot
  | true =>
    have hbars : Bars key root := by
      by_contra hnot
      rw [opens_iff.2 ⟨hroot, hnot⟩] at h
      cases h
    exact .inr ⟨[], key, rest, root, rfl, rfl, hbars⟩

theorem not_obstructed_singleton {key : Key} {root : Json} (h : opens key root = true) :
    ¬ Obstructed [key] root := by
  obtain ⟨hroot, hbars⟩ := opens_iff.1 h
  rintro (hscalar | ⟨front, k, back, node, hsplit, hfollow, hnode⟩)
  · rw [hroot] at hscalar
    cases hscalar
  · cases front with
    | nil =>
      obtain ⟨rfl, -⟩ := List.cons.inj hsplit
      obtain rfl := Option.some.inj hfollow
      exact hbars hnode
    | cons first front => simp at hsplit

theorem place_eq_none_iff {keys : List Key} (hkeys : ∀ key ∈ keys, key.Bounded) (hne : keys ≠ [])
    (value root : Json) : place value keys root = none ↔ Obstructed keys root := by
  induction keys generalizing root with
  | nil => exact absurd rfl hne
  | cons key rest ih =>
    obtain ⟨hkey, hrest⟩ := List.forall_mem_cons.1 hkeys
    rw [place]
    cases hopen : opens key root with
    | false => simp [obstructed_of_not_opens hopen]
    | true =>
      by_cases hlast : rest = []
      · subst hlast
        simp [place, not_obstructed_singleton hopen]
      · rw [if_pos rfl, Option.map_eq_none_iff, ih hrest hlast, child_of_opens hkey hopen,
          obstructed_cons hopen hlast]

/-! ### The tree behind a refused write -/

theorem assignAt_eq_conflict_iff {keys : List Key} (hkeys : ∀ key ∈ keys, key.Bounded)
    (hne : keys ≠ []) (value root : Json) :
    (assignAt value keys root).2 = .conflict ↔ Obstructed keys root := by
  rw [← place_eq_none_iff hkeys hne value root]
  have hwritten := assignAt_eq_written_iff hkeys hne value root
  rcases hassign : assignAt value keys root with ⟨root', outcome⟩
  cases outcome with
  | written => simp [(hwritten root').1 hassign]
  | conflict =>
    have hnone : ∀ other, place value keys root ≠ some other := by
      intro other hplace
      rw [(hwritten other).2 hplace] at hassign
      cases hassign
    simpa using Option.eq_none_iff_forall_ne_some.2 hnone

/-- A write that is refused has made nothing on its way. -/
theorem eq_of_assignAt_conflict {keys : List Key} (hkeys : ∀ key ∈ keys, key.Bounded)
    {value root : Json} (h : (assignAt value keys root).2 = .conflict) :
    (assignAt value keys root).1 = root := by
  induction keys generalizing root with
  | nil => rfl
  | cons key rest ih =>
    obtain ⟨hkey, hrest⟩ := List.forall_mem_cons.1 hkeys
    cases hopen : opens key root with
    | false => rw [assignAt_of_not_opens hopen]
    | true =>
      by_cases hlast : rest = []
      · subst hlast
        rw [assignAt_last hkey hopen] at h
        cases h
      · rw [assignAt_next hkey hopen value hlast, child_of_opens hkey hopen] at h ⊢
        cases hchild : isContainer (fillNull ((find? key root).getD .null)) with
        | false =>
          obtain ⟨v, hv, -⟩ := exists_of_fillNull_ne (ne_empty_of_not_isContainer hchild)
          rw [if_neg Bool.false_ne_true]
          rw [makeRoom_of_find? hv]
        | true =>
          rw [hchild, if_pos rfl] at h
          rw [if_pos rfl]
          -- below an object made on the way the write is never refused
          have hne : fillNull ((find? key root).getD .null) ≠ .object [] := by
            intro hempty
            obtain ⟨next, later, rfl⟩ := List.exists_cons_of_ne_nil hlast
            rw [hempty, assignAt_empty] at h
            cases h
          obtain ⟨v, hv, hfill⟩ := exists_of_fillNull_ne hne
          simp only [ih hrest h]
          rw [hv, Option.getD_some, hfill]
          exact store_of_find? hv

theorem keys_ne_nil_of_parse {source : String} {target : Target} (h : parse source = .ok target) :
    target.keys ≠ [] := by
  obtain ⟨key, rest, hkeys, -⟩ := readKeys_first (readKeys_of_parse h)
  rw [hkeys]
  exact List.cons_ne_nil key rest

/-- A write is refused exactly if the root is no container or something on the way bars the next
key, and whenever it is refused the tree is the same as before. -/
theorem assign_conflict_iff {source : String} {target : Target} (hparse : parse source = .ok target)
    (hkeys : ∀ key ∈ target.keys, key.Bounded) (root value : Json) :
    ((target.assign root value).2 = .conflict ↔ Obstructed target.keys root) ∧
      ((target.assign root value).2 = .conflict → (target.assign root value).1 = root) :=
  ⟨assignAt_eq_conflict_iff hkeys (keys_ne_nil_of_parse hparse) value root,
    eq_of_assignAt_conflict hkeys⟩

/-- A text in an array bars the last key; the array stays as short as it was. -/
theorem assign_conflict_at_text :
    let root : Json := .object [("a", .array [.null, .string "x"])]
    ∃ target, parse "$.a[1].b" = .ok target ∧ (∀ key ∈ target.keys, key.Bounded) ∧
      Obstructed target.keys root ∧ target.assign root .null = (root, .conflict) := by
  intro root
  have hparse : parse "$.a[1].b" = .ok ⟨"$.a[1].b", [.name "a", .position 1, .name "b"]⟩ := by
    decide +kernel
  have hkeys : ∀ key ∈ [Key.name "a", .position 1, .name "b"], key.Bounded := by
    simp [Key.Bounded]
  have hobstructed : Obstructed [.name "a", .position 1, .name "b"] root :=
    .inr ⟨[.name "a", .position 1], .name "b", [], .string "x", rfl, rfl, trivial⟩
  obtain ⟨hiff, hsame⟩ := assign_conflict_iff hparse hkeys root .null
  have hconflict := hiff.2 hobstructed
  exact ⟨_, hparse, hkeys, hobstructed, Prod.ext (hsame hconflict) hconflict⟩

end TrackerTraffic.Target
