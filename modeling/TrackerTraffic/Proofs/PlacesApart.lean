import TrackerTraffic.Proofs.TargetPlace

/-!
# Places apart

Two ways of keys are apart if neither goes on where the other one ends.  A write then
leaves the other place as it was, though it makes containers and room on the part of the
way that the two share; and two writes come to the same tree in either order, but for the
order of the members that they create.
-/

namespace TrackerTraffic

/-- Neither way is the start of the other. -/
def Apart {α : Type} (p q : List α) : Prop := ¬ p <+: q ∧ ¬ q <+: p

theorem Apart.symm {α : Type} {p q : List α} (h : Apart p q) : Apart q p := And.symm h

theorem not_apart_nil_left {α : Type} {q : List α} : ¬ Apart [] q :=
  fun h => h.1 (List.nil_prefix)

theorem not_apart_nil_right {α : Type} {p : List α} : ¬ Apart p [] :=
  fun h => h.2 (List.nil_prefix)

theorem Apart.ne_nil {α : Type} {p q : List α} (h : Apart p q) : p ≠ [] := by
  rintro rfl
  exact not_apart_nil_left h

/-- Ways apart part at once, or go on apart behind a first step that they share. -/
theorem Apart.tail {α : Type} {a : α} {p q : List α} (h : Apart (a :: p) (a :: q)) : Apart p q := by
  simpa [Apart, List.cons_prefix_cons] using h

namespace Target

/-! ### One key -/

/-- The key reads as what it is: a name is no position, and a position has another one behind it. -/
def Key.Plain : Key → Prop
  | .name text => Text.unsigned? text.toList = none
  | .position p => p + 1 < 2 ^ 64

theorem Key.Plain.bounded {key : Key} (h : key.Plain) : key.Bounded := by
  cases key with
  | name text => trivial
  | position p => exact h

theorem Key.forall_bounded {keys : List Key} (h : ∀ key ∈ keys, key.Plain) :
    ∀ key ∈ keys, key.Bounded :=
  fun key hkey => (h key hkey).bounded

theorem Key.Plain.eq_of_text_eq {k l : Key} (hk : k.Plain) (hl : l.Plain) (h : k.text = l.text) :
    k = l := by
  cases k with
  | name s =>
    cases l with
    | name t => exact congrArg Key.name h
    | position q =>
      have hs : Text.unsigned? s.toList = none := hk
      have hread := unsigned?_text hl
      rw [← h, Key.text, hs] at hread
      cases hread
  | position p =>
    have hread := unsigned?_text hk
    cases l with
    | name t =>
      have ht : Text.unsigned? t.toList = none := hl
      rw [h, Key.text, ht] at hread
      cases hread
    | position q =>
      rw [h, unsigned?_text hl] at hread
      rw [Option.some.inj hread]

theorem child_array_name {s : String} (h : (Key.name s).Plain) (items : List Json) :
    child (.name s) (.array items) = .null := by
  have hs : Text.unsigned? (Key.name s).text.toList = none := h
  rw [child, Path.childNamed, hs]
  rfl

theorem child_store_of_ne {key other : Key} (hkey : key.Bounded) (hother : other.Plain)
    (hne : key.text ≠ other.text) (value root : Json) :
    child other (store key value root) = child other root := by
  cases root with
  | array items =>
    cases key with
    | name s => rfl
    | position p =>
      rw [store_array_position hkey]
      cases other with
      | name t => rw [child_array_name hother, child_array_name hother]
      | position q =>
        have hpq : p ≠ q := fun heq => hne (congrArg (fun n => (Key.position n).text) heq)
        rw [child_array_position hother.bounded, child_array_position hother.bounded,
          List.getElem?_set_ne hpq, getElem?_padded]
  | object members =>
    rw [store_object, child_object, child_object, Json.lookup_insert_of_ne hne]
  | _ => rfl

theorem store_same {key : Key} (hkey : key.Bounded) {v w : Json} (h : v.SameButOrder w)
    (root : Json) : (store key v root).SameButOrder (store key w root) := by
  cases root with
  | array items =>
    cases key with
    | name s => exact .refl _
    | position p =>
      rw [store_array_position hkey, store_array_position hkey]
      exact h.set (padded p items) p
  | object members =>
    rw [store_object, store_object]
    exact h.insert key.text members
  | _ => exact .refl _

/-- Room is made for the greater of two positions, whichever comes first. -/
theorem set_padded_comm {p q : Nat} (hne : p ≠ q) (v w : Json) (items : List Json) :
    (padded q ((padded p items).set p v)).set q w =
      (padded p ((padded q items).set q w)).set p v := by
  apply List.ext_getElem?
  intro i
  simp only [padded, List.getElem?_set, List.getElem?_append, List.getElem?_replicate,
    List.length_set, List.length_append, List.length_replicate]
  grind

theorem store_comm {key other : Key} (hkey : key.Bounded) (hother : other.Bounded)
    (hne : key.text ≠ other.text) (v w root : Json) :
    (store other w (store key v root)).SameButOrder (store key v (store other w root)) := by
  cases root with
  | array items =>
    cases key with
    | name s =>
      have hbefore : opens (.name s) (.array items) = false := rfl
      have hbehind : opens (.name s) (store other w (.array items)) = false :=
        opens_store hother (.name s) w (.array items)
      rw [store_of_not_opens hbefore, store_of_not_opens hbehind]
      exact .refl _
    | position p =>
      cases other with
      | name t => exact .refl _
      | position q =>
        have hpq : p ≠ q := fun heq => hne (congrArg (fun n => (Key.position n).text) heq)
        rw [store_array_position hkey, store_array_position hother, store_array_position hother,
          store_array_position hkey, set_padded_comm hpq]
        exact .refl _
  | object members =>
    rw [store_object, store_object, store_object, store_object]
    exact .members (Json.insert_comm hne v w members)
  | _ => exact .refl _

/-! ### Ways of keys -/

/-- What a read path finds under the texts of keys, one behind the other. -/
def look : List Key → Json → Json
  | [], root => root
  | key :: rest, root => look rest (child key root)

/-! ### Reading what was not written -/

theorem child_fillNull (key : Key) (root : Json) : child key (fillNull root) = child key root := by
  cases root <;> rfl

theorem look_fillNull {keys : List Key} (hne : keys ≠ []) (root : Json) :
    look keys (fillNull root) = look keys root := by
  obtain ⟨key, rest, rfl⟩ := List.exists_cons_of_ne_nil hne
  rw [look, look, child_fillNull]

/-- The part of a way that a write shares with a place apart leads to that place as before. -/
theorem look_place {keys others : List Key} (hkeys : ∀ key ∈ keys, key.Plain)
    (hothers : ∀ key ∈ others, key.Plain)
    (hapart : Apart (keys.map Key.text) (others.map Key.text)) {value root root' : Json}
    (hplace : place value keys root = some root') : look others root' = look others root := by
  -- Along the keys that are shared; where the ways part, the read turns to a child that no
  -- write has touched, though room may have been made beside it.
  induction keys generalizing others root root' with
  | nil => exact absurd hapart not_apart_nil_left
  | cons key rest ih =>
    cases others with
    | nil => exact absurd hapart not_apart_nil_right
    | cons other later =>
      obtain ⟨hkey, hrest⟩ := List.forall_mem_cons.1 hkeys
      obtain ⟨hother, hbehind⟩ := List.forall_mem_cons.1 hothers
      obtain ⟨hopen, below, hbelow, rfl⟩ := place_cons_eq_some_iff.1 hplace
      rw [look, look]
      by_cases htext : key.text = other.text
      · obtain rfl := hkey.eq_of_text_eq hother htext
        have htail : Apart (rest.map Key.text) (later.map Key.text) := hapart.tail
        have hlater : later ≠ [] := by simpa using htail.symm.ne_nil
        rw [child_store_self hkey.bounded hopen, ih hrest hbehind htail hbelow,
          look_fillNull hlater]
      · rw [child_store_of_ne hkey.bounded hother htext]

/-! ### Two writes -/

/-- Two writes below keys of different texts do not see each other. -/
theorem place_place_beside {key other : Key} (hkey : key.Bounded) (hother : other.Plain)
    (hne : key.text ≠ other.text) (rest later : List Key) (v w root : Json) :
    (place v (key :: rest) root).bind (place w (other :: later)) =
      if opens key root && opens other root then
        (place v rest (fillNull (child key root))).bind fun below =>
          (place w later (fillNull (child other root))).map fun beside =>
            store other beside (store key below root)
      else none := by
  rw [place]
  cases hopen : opens key root with
  | false => rfl
  | true =>
    cases place v rest (fillNull (child key root)) with
    | none => simp
    | some below =>
      simp only [if_true, Option.map_some, Option.bind_some, place, opens_store hkey,
        child_store_of_ne hkey hother hne, Bool.true_and]

theorem rel_map {α : Type} {R : α → α → Prop} {x y : Option α} (h : Option.Rel R x y)
    {f g : α → α} (hf : ∀ a b, R a b → R (f a) (g b)) : Option.Rel R (x.map f) (y.map g) := by
  cases h with
  | none => exact .none
  | some hab => exact .some (hf _ _ hab)

/-- Writes at places apart succeed in either order or in none, and come to the same tree but for the
order of members. -/
theorem place_comm {keys others : List Key} (hkeys : ∀ key ∈ keys, key.Plain)
    (hothers : ∀ key ∈ others, key.Plain)
    (hapart : Apart (keys.map Key.text) (others.map Key.text)) (v w root : Json) :
    Option.Rel Json.SameButOrder ((place v keys root).bind (place w others))
      ((place w others root).bind (place v keys)) := by
  induction keys generalizing others root with
  | nil => exact absurd hapart not_apart_nil_left
  | cons key rest ih =>
    cases others with
    | nil => exact absurd hapart not_apart_nil_right
    | cons other later =>
      obtain ⟨hkey, hrest⟩ := List.forall_mem_cons.1 hkeys
      obtain ⟨hother, hlater⟩ := List.forall_mem_cons.1 hothers
      by_cases htext : key.text = other.text
      · obtain rfl := hkey.eq_of_text_eq hother htext
        have htail : Apart (rest.map Key.text) (later.map Key.text) := hapart.tail
        have hrestNe : rest ≠ [] := by simpa using htail.ne_nil
        have hlaterNe : later ≠ [] := by simpa using htail.symm.ne_nil
        rw [place_place_below hkey.bounded (Key.forall_bounded hrest) hrestNe,
          place_place_below hkey.bounded (Key.forall_bounded hlater) hlaterNe]
        split
        · exact rel_map (ih hrest hlater htail _) fun _ _ h => store_same hkey.bounded h root
        · exact .none
      · rw [place_place_beside hkey.bounded hother htext,
          place_place_beside hother.bounded hkey (Ne.symm htext), Bool.and_comm]
        split
        · cases place v rest (fillNull (child key root)) with
          | none => cases place w later (fillNull (child other root)) <;> exact .none
          | some below =>
            cases place w later (fillNull (child other root)) with
            | none => exact .none
            | some beside =>
              exact .some (store_comm hkey.bounded hother.bounded htext below beside root)
        · exact .none

end Target

end TrackerTraffic
