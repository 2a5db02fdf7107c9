import TrackerTraffic.Proofs.RenderedFields
import TrackerTraffic.Proofs.WireRoundTrip

/-!
# Wire types beside values

With types, every value of a field stands in a wrapper, at every level.  Taking the wrappers away
leaves the object without types: it commutes with grouping, since a group of wrappers is one of
values.  The types are those of the tags, so each of them fits its value.
-/

namespace TrackerTraffic.Wire

/-! ### Taking wrappers away -/

def wrapper (t v : Json) : Json := .object [("wireType", t), ("value", v)]

def unwrap : Json.Members → Json
  | [("wireType", _), ("value", v)] => v
  | members => .object members

mutual
/-- The tree with the value in the place of every wrapper. -/
def erase : Json → Json
  | .array items => .array (eraseItems items)
  | .object members => unwrap (eraseMembers members)
  | v => v

def eraseItems : List Json → List Json
  | [] => []
  | v :: rest => erase v :: eraseItems rest

def eraseMembers : Json.Members → Json.Members
  | [] => []
  | (name, v) :: rest => (name, erase v) :: eraseMembers rest
end

theorem eraseItems_eq_map (items : List Json) : eraseItems items = items.map erase := by
  induction items with
  | nil => rw [eraseItems, List.map_nil]
  | cons v rest ih => rw [eraseItems, ih, List.map_cons]

theorem eraseMembers_eq_map (members : Json.Members) :
    eraseMembers members = members.map fun member => (member.1, erase member.2) := by
  induction members with
  | nil => rw [eraseMembers, List.map_nil]
  | cons member rest ih =>
    obtain ⟨name, v⟩ := member
    rw [eraseMembers, ih, List.map_cons]

theorem erase_wrapper (t v : Json) : erase (wrapper t v) = erase v := by
  simp only [wrapper, erase, eraseMembers, unwrap]

theorem unwrap_of_names {members : Json.Members} (h : "wireType" ∉ members.map Prod.fst) :
    unwrap members = .object members := by
  unfold unwrap
  split
  · simp at h
  · rfl

theorem erase_grouped (values : List Json) :
    erase (Json.grouped values) = Json.grouped (values.map erase) := by
  match values with
  | [] => simp [Json.grouped, erase, eraseItems]
  | [v] => rfl
  | first :: second :: rest => simp [Json.grouped, erase, eraseItems_eq_map]

theorem valuesOf_erase (name : String) (entries : List (String × Json)) :
    Json.valuesOf name (entries.map fun entry => (entry.1, erase entry.2)) =
      (Json.valuesOf name entries).map erase := by
  rw [Json.valuesOf, Json.valuesOf, List.filter_map, List.map_map, List.map_map]
  rfl

theorem eraseMembers_groups (entries : List (String × Json)) :
    eraseMembers (Json.groups entries) =
      Json.groups (entries.map fun entry => (entry.1, erase entry.2)) := by
  have hnames : (entries.map fun entry => (entry.1, erase entry.2)).map Prod.fst =
      entries.map Prod.fst := by
    rw [List.map_map]
    rfl
  rw [eraseMembers_eq_map, Json.groups, Json.groups, hnames, List.map_map]
  apply List.map_congr_left
  intro name _
  simp only [Function.comp_apply, erase_grouped, valuesOf_erase]

/-! ### Names of fields -/

theorem wireType_ne_toString (number : Nat) : "wireType" ≠ toString number := by
  intro h
  have hletter : 'w' ∈ (toString number).toList := by
    rw [← h]
    decide
  exact absurd (Text.isDigit_of_mem_toString hletter) (by decide)

theorem exists_number_of_mem {typed : Bool} {fields : List Field} {member : String × Json}
    (h : member ∈ Json.groups (fields.map (Tagged.entry typed))) :
    ∃ number : Nat, member.1 = toString number := by
  have hname : member.1 ∈ (Json.groups (fields.map (Tagged.entry typed))).map Prod.fst :=
    List.mem_map_of_mem h
  rw [Json.names_groups, List.mem_eraseDups, List.map_map] at hname
  obtain ⟨field, -, hfield⟩ := List.mem_map.1 hname
  exact ⟨field.number, hfield.symm⟩

theorem wireType_not_mem_names (typed : Bool) (fields : List Field) :
    "wireType" ∉ (Json.groups (fields.map (Tagged.entry typed))).map Prod.fst := by
  intro h
  obtain ⟨member, hmember, hname⟩ := List.mem_map.1 h
  obtain ⟨number, hnumber⟩ := exists_number_of_mem hmember
  exact wireType_ne_toString number (hname.symm.trans hnumber)

/-! ### Erasure -/

mutual
theorem Payload.erase_toJson (payload : Payload) :
    erase (payload.toJson true) = payload.toJson false := by
  cases payload with
  | varint n => simp only [Payload.toJson, Json.ofNat, erase]
  | fixed64 n => simp only [Payload.toJson, Json.ofNat, erase]
  | fixed32 n => simp only [Payload.toJson, Json.ofNat, erase]
  | bytes content => simp only [Payload.toJson, erase]
  | message fields =>
    have hnames := wireType_not_mem_names false fields
    rw [Payload.toJson_message, Payload.toJson_message, erase, eraseMembers_groups,
      erase_entries fields, unwrap_of_names hnames]

theorem erase_entries (fields : List (Tagged Payload)) :
    (fields.map (Tagged.entry true)).map (fun entry => (entry.1, erase entry.2)) =
      fields.map (Tagged.entry false) := by
  match fields with
  | [] => rfl
  | ⟨number, wireType, payload⟩ :: rest =>
    have hvalue : erase (annotate wireType (payload.toJson true)) = payload.toJson false := by
      rw [← payload.erase_toJson]
      exact erase_wrapper (.ofNat wireType.bits) (payload.toJson true)
    rw [List.map_cons, List.map_cons, List.map_cons, erase_entries rest]
    congr 1
    exact congrArg (Prod.mk (toString number)) hvalue
end

/-! ### Objects inside a tree -/

/-- The value is the tree or stands in it, at any depth. -/
inductive Occurs (v : Json) : Json → Prop where
  | self : Occurs v v
  | item {items : List Json} {w : Json} (hitem : w ∈ items) (h : Occurs v w) :
    Occurs v (.array items)
  | member {members : Json.Members} {name : String} {w : Json} (hmember : (name, w) ∈ members)
    (h : Occurs v w) : Occurs v (.object members)

structure TypeFits (t v : Json) : Prop where
  two_iff : t = .ofNat 2 ↔ (∃ text, v = .string text) ∨ ∃ members, v = .object members
  number_iff : (t = .ofNat 0 ∨ t = .ofNat 1 ∨ t = .ofNat 5) ↔ ∃ n < 2 ^ 64, v = .ofNat n
  five_lt : t = .ofNat 5 → ∃ n < 2 ^ 32, v = .ofNat n

/-- A wrapper, or an array of wrappers. -/
def IsWrapped (w : Json) : Prop :=
  (∃ t v, w = wrapper t v) ∨ ∃ items, w = .array items ∧ ∀ item ∈ items, ∃ t v, item = wrapper t v

/-- Every object in the tree is a wrapper with a type that fits, or one of fields in wrappers. -/
def IsTyped (tree : Json) : Prop :=
  ∀ members, Occurs (.object members) tree →
    (∃ t v, members = [("wireType", t), ("value", v)] ∧ TypeFits t v) ∨
      ∀ member ∈ members, (∃ number : Nat, member.1 = toString number) ∧ IsWrapped member.2

theorem isTyped_number (n : Json.Number) : IsTyped (.number n) := by
  intro members h
  cases h

theorem isTyped_string (text : String) : IsTyped (.string text) := by
  intro members h
  cases h

theorem isTyped_array {items : List Json} (h : ∀ item ∈ items, IsTyped item) :
    IsTyped (.array items) := by
  intro members hoccurs
  cases hoccurs with
  | item hitem hoccurs => exact h _ hitem members hoccurs

theorem isTyped_wrapper {n : Nat} {v : Json} (hfits : TypeFits (.ofNat n) v) (h : IsTyped v) :
    IsTyped (wrapper (.ofNat n) v) := by
  intro members hoccurs
  cases hoccurs with
  | self => exact .inl ⟨_, v, rfl, hfits⟩
  | member hmember hoccurs =>
    simp only [List.mem_cons, Prod.mk.injEq, List.not_mem_nil, or_false] at hmember
    rcases hmember with ⟨-, rfl⟩ | ⟨-, rfl⟩
    · exact isTyped_number _ members hoccurs
    · exact h members hoccurs

theorem isTyped_object {members : Json.Members}
    (hnames : ∀ member ∈ members, (∃ number : Nat, member.1 = toString number) ∧
      IsWrapped member.2)
    (h : ∀ member ∈ members, IsTyped member.2) : IsTyped (.object members) := by
  intro found hoccurs
  cases hoccurs with
  | self => exact .inr hnames
  | member hmember hoccurs => exact h _ hmember found hoccurs

theorem grouped_cases (values : List Json) :
    (∃ v, values = [v] ∧ Json.grouped values = v) ∨ Json.grouped values = .array values := by
  match values with
  | [] => exact .inr rfl
  | [v] => exact .inl ⟨v, rfl, rfl⟩
  | first :: second :: rest => exact .inr rfl

theorem isTyped_grouped {values : List Json} (h : ∀ v ∈ values, IsTyped v) :
    IsTyped (Json.grouped values) := by
  rcases grouped_cases values with ⟨v, rfl, hgrouped⟩ | hgrouped
  · exact hgrouped ▸ h v List.mem_cons_self
  · exact hgrouped ▸ isTyped_array h

theorem isWrapped_grouped {values : List Json} (h : ∀ v ∈ values, ∃ t w, v = wrapper t w) :
    IsWrapped (Json.grouped values) := by
  rcases grouped_cases values with ⟨v, rfl, hgrouped⟩ | hgrouped
  · exact hgrouped ▸ .inl (h v List.mem_cons_self)
  · exact .inr ⟨values, hgrouped, h⟩

/-! ### Types that fit -/

theorem fits_number {t n : Nat} (ht : t = 0 ∨ t = 1 ∨ t = 5) (hn : n < 2 ^ 64)
    (hfive : t = 5 → n < 2 ^ 32) : TypeFits (.ofNat t) (.ofNat n) := by
  have hinj (m k : Nat) : Json.ofNat m = .ofNat k ↔ m = k := by simp [Json.ofNat]
  refine ⟨?_, ?_, ?_⟩
  · rw [hinj]
    simp only [Json.ofNat, reduceCtorEq, exists_false, or_self, iff_false]
    omega
  · rw [hinj, hinj, hinj]
    exact ⟨fun _ => ⟨n, hn, rfl⟩, fun _ => ht⟩
  · rw [hinj]
    exact fun h => ⟨n, hfive h, rfl⟩

theorem fits_string (text : String) : TypeFits (.ofNat 2) (.string text) :=
  ⟨by simp, by simp [Json.ofNat], by simp [Json.ofNat]⟩

theorem fits_object (members : Json.Members) : TypeFits (.ofNat 2) (.object members) :=
  ⟨by simp, by simp [Json.ofNat], by simp [Json.ofNat]⟩

theorem Payload.fits_toJson (payload : Payload) :
    TypeFits (.ofNat payload.wireType.bits) (payload.toJson true) := by
  cases payload with
  | varint n =>
    show TypeFits (.ofNat 0) (.ofNat n.toNat)
    exact fits_number (by omega) n.toNat_lt (by omega)
  | fixed64 n =>
    show TypeFits (.ofNat 1) (.ofNat n.toNat)
    exact fits_number (by omega) n.toNat_lt (by omega)
  | fixed32 n =>
    have hn := n.toNat_lt
    show TypeFits (.ofNat 5) (.ofNat n.toNat)
    exact fits_number (by omega) (by omega) fun _ => hn
  | bytes content => exact fits_string _
  | message fields =>
    rw [Payload.toJson_message]
    exact fits_object _

/-! ### Trees of messages -/

theorem Tagged.shown_true (field : Field) :
    field.shown true = wrapper (.ofNat field.wireType.bits) (field.value.toJson true) := rfl

theorem forall_mem_valuesOf {typed : Bool} {fields : List Field} {P : Json → Prop}
    (h : ∀ field ∈ fields, P (field.shown typed)) (name : String) :
    ∀ v ∈ Json.valuesOf name (fields.map (Tagged.entry typed)), P v := by
  intro v hv
  obtain ⟨field, hfield, hentry⟩ := List.mem_map.1 (Json.mem_of_mem_valuesOf hv)
  rw [← (Prod.mk.inj hentry).2]
  exact h field hfield

theorem isTyped_message {fields : List Field}
    (h : ∀ field ∈ fields, IsTyped (field.shown true)) :
    IsTyped ((Payload.message fields).toJson true) := by
  have hvalue : ∀ member ∈ Json.groups (fields.map (Tagged.entry true)),
      member.2 = Json.grouped (Json.valuesOf member.1 (fields.map (Tagged.entry true))) := by
    intro member hmember
    obtain ⟨name, -, rfl⟩ := List.mem_map.1 hmember
    rfl
  rw [Payload.toJson_message]
  apply isTyped_object
  · intro member hmember
    refine ⟨exists_number_of_mem hmember, ?_⟩
    rw [hvalue member hmember]
    exact isWrapped_grouped
      (forall_mem_valuesOf (fun field _ => ⟨_, _, field.shown_true⟩) member.1)
  · intro member hmember
    rw [hvalue member hmember]
    exact isTyped_grouped (forall_mem_valuesOf h member.1)

mutual
theorem Payload.isTyped_toJson (payload : Payload) (h : payload.Canonical) :
    IsTyped (payload.toJson true) := by
  cases payload with
  | varint n => exact isTyped_number _
  | fixed64 n => exact isTyped_number _
  | fixed32 n => exact isTyped_number _
  | bytes content => exact isTyped_string _
  | message fields =>
    rw [Payload.Canonical] at h
    exact isTyped_message (isTyped_shown fields h.2)

/-- The type of a canonical field is that of its payload, and so fits the value. -/
theorem isTyped_shown (fields : List (Tagged Payload)) (h : CanonicalFields fields) :
    ∀ field ∈ fields, IsTyped (Tagged.shown true field) := by
  match fields with
  | [] => exact List.forall_mem_nil _
  | ⟨number, wireType, payload⟩ :: rest =>
    rw [CanonicalFields] at h
    obtain ⟨-, htype, hpayload, hrest⟩ := h
    subst htype
    exact List.forall_mem_cons.2
      ⟨isTyped_wrapper payload.fits_toJson (payload.isTyped_toJson hpayload),
        isTyped_shown rest hrest⟩
end

theorem IsTyped.fits {tree t v : Json} (h : IsTyped tree) (hoccurs : Occurs (wrapper t v) tree) :
    TypeFits t v := by
  rcases h _ hoccurs with ⟨t', v', hmembers, hfits⟩ | hnames
  · simp only [List.cons.injEq, Prod.mk.injEq, true_and, and_true] at hmembers
    obtain ⟨rfl, rfl⟩ := hmembers
    exact hfits
  · obtain ⟨⟨number, hnumber⟩, -⟩ := hnames ("wireType", t) List.mem_cons_self
    exact absurd hnumber (wireType_ne_toString number)

theorem IsTyped.wrapped {tree : Json} (h : IsTyped tree) {members : Json.Members}
    (hoccurs : Occurs (.object members) tree) :
    (∃ t v, Json.object members = wrapper t v) ∨ ∀ member ∈ members, IsWrapped member.2 := by
  rcases h members hoccurs with ⟨t, v, rfl, -⟩ | hnames
  · exact .inl ⟨t, v, rfl⟩
  · exact .inr fun member hmember => (hnames member hmember).2

/--
The object with types fails as the one without does, and is that one when the wrappers are taken
away.  In it every object is a wrapper or has nothing but wrappers and arrays of wrappers under its
names, and in each wrapper the type fits the value.
-/
theorem decodeTyped_erases (bytes : Bytes) :
    (∀ e, decodeTyped bytes = .error e ↔ decode bytes = .error e) ∧
    ∀ tree, decodeTyped bytes = .ok tree →
      decode bytes = .ok (erase tree) ∧
      (∀ t v, Occurs (wrapper t v) tree → TypeFits t v) ∧
      ∀ members, Occurs (.object members) tree →
        (∃ t v, Json.object members = wrapper t v) ∨
          ∀ member ∈ members, IsWrapped member.2 := by
  refine ⟨?_, ?_⟩
  · intro e
    rw [decode, decodeTyped, map_render_eq_error_iff, map_render_eq_error_iff]
  · intro tree htree
    obtain ⟨fields, hparse, rfl⟩ := map_render_eq_ok_iff.1 htree
    have hcanonical := (readable_of_parseFrom hparse).canonical
    have htyped := isTyped_message (isTyped_shown fields hcanonical)
    rw [Payload.erase_toJson]
    exact ⟨map_render_eq_ok_iff.2 ⟨fields, hparse, rfl⟩, fun t v => htyped.fits,
      fun members => htyped.wrapped⟩

/-- A repeated number and, in a nested message, words of 64 and of 32 bits. -/
theorem decodeTyped_erases_nested :
    let bytes : Bytes := [0x08, 0x05, 0x12, 0x0e, 0x09, 1, 0, 0, 0, 0, 0, 0, 1, 0x15, 7, 0, 0, 0,
      0x08, 0x06]
    let inner := Json.object [("1", wrapper (.ofNat 1) (.ofNat (2 ^ 56 + 1))),
      ("2", wrapper (.ofNat 5) (.ofNat 7))]
    let tree := Json.object [("1", .array [wrapper (.ofNat 0) (.ofNat 5),
      wrapper (.ofNat 0) (.ofNat 6)]), ("2", wrapper (.ofNat 2) inner)]
    decodeTyped bytes = .ok tree ∧
      decode bytes = .ok (.object [("1", .array [.ofNat 5, .ofNat 6]),
        ("2", .object [("1", .ofNat (2 ^ 56 + 1)), ("2", .ofNat 7)])]) ∧
      TypeFits (.ofNat 2) inner := by
  intro bytes inner tree
  have htree : decodeTyped bytes = .ok tree := by cbv
  obtain ⟨-, hdecoded⟩ := decodeTyped_erases bytes
  obtain ⟨herased, hfits, -⟩ := hdecoded tree htree
  have hmember : ("2", wrapper (.ofNat 2) inner) ∈ [("1", Json.array [wrapper (.ofNat 0) (.ofNat 5),
      wrapper (.ofNat 0) (.ofNat 6)]), ("2", wrapper (.ofNat 2) inner)] :=
    List.mem_cons_of_mem _ List.mem_cons_self
  have hoccurs : Occurs (wrapper (.ofNat 2) inner) tree := .member hmember .self
  exact ⟨htree, herased, hfits _ _ hoccurs⟩

end TrackerTraffic.Wire
