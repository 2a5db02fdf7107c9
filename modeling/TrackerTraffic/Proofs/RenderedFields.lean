import TrackerTraffic.Proofs.Decimal
import TrackerTraffic.Proofs.Grouping
import TrackerTraffic.Wire.Render

/-!
# Messages as objects

The object of a message has a name for each field number, in order of first occurrence.  No value of
a field is an array, so entering the fields one after another groups them: a number that occurs once
has the value of its field, and any other the array of the values of its fields, in order.
-/

namespace TrackerTraffic.Wire

/-! ### Fields entered one after another -/

/-- The JSON value that stands for a field among the members of its message. -/
def Tagged.shown (typed : Bool) (field : Field) : Json :=
  if typed then annotate field.wireType (field.value.toJson typed) else field.value.toJson typed

def Tagged.entry (typed : Bool) (field : Field) : String × Json :=
  (toString field.number, field.shown typed)

theorem collect_eq_gather (number : Nat) (value : Json) (members : Json.Members) :
    collect number value members = Json.gather members (toString number, value) := by
  rw [collect, Json.gather]
  cases Json.lookup (toString number) members with
  | none => rfl
  | some existing => cases existing <;> rfl

theorem collectFields_eq (typed : Bool) (fields : List Field) (members : Json.Members) :
    collectFields typed fields members =
      (fields.map (Tagged.entry typed)).foldl Json.gather members := by
  induction fields generalizing members with
  | nil => rw [collectFields, List.map_nil, List.foldl_nil]
  | cons field rest ih =>
    obtain ⟨number, wireType, payload⟩ := field
    rw [collectFields, collect_eq_gather, ih, List.map_cons, List.foldl_cons]
    rfl

theorem Payload.toJson_ne_array (typed : Bool) (payload : Payload) (items : List Json) :
    payload.toJson typed ≠ .array items := by
  cases payload <;> simp [Payload.toJson, Json.ofNat]

theorem Tagged.shown_ne_array (typed : Bool) (field : Field) (items : List Json) :
    field.shown typed ≠ .array items := by
  unfold shown
  split
  · simp [annotate]
  · exact field.value.toJson_ne_array typed items

theorem collectFields_eq_groups (typed : Bool) (fields : List Field) :
    collectFields typed fields [] = Json.groups (fields.map (Tagged.entry typed)) := by
  have hsingle : ∀ entry ∈ fields.map (Tagged.entry typed), ∀ items, entry.2 ≠ .array items := by
    intro entry hentry items
    obtain ⟨field, -, rfl⟩ := List.mem_map.1 hentry
    exact field.shown_ne_array typed items
  rw [collectFields_eq, Json.foldl_gather hsingle]

theorem Payload.toJson_message (typed : Bool) (fields : List Field) :
    (Payload.message fields).toJson typed =
      .object (Json.groups (fields.map (Tagged.entry typed))) := by
  rw [Payload.toJson, collectFields_eq_groups]

theorem render_eq_toJson (typed : Bool) (fields : List Field) :
    render typed fields = (Payload.message fields).toJson typed := by
  rw [render, Payload.toJson]

theorem map_render_eq_ok_iff {typed : Bool} {bytes : Bytes} {tree : Json} :
    (parseMessage bytes).map (render typed) = .ok tree ↔
      ∃ fields, parseMessage bytes = .ok fields ∧
        (Payload.message fields).toJson typed = tree := by
  cases parseMessage bytes <;> simp [Except.map, render_eq_toJson]

theorem map_render_eq_error_iff {typed : Bool} {bytes : Bytes} {e : WireError} :
    (parseMessage bytes).map (render typed) = .error e ↔ parseMessage bytes = .error e := by
  cases parseMessage bytes <;> simp [Except.map]

/-! ### Numbers as names -/

theorem toString_injective : Function.Injective (toString : Nat → String) := by
  intro m n h
  have hdigits := Text.digits?_toString m
  rw [h, Text.digits?_toString] at hdigits
  exact (Option.some.inj hdigits).symm

def valuesAt (number : Nat) (entries : List (Nat × Json)) : List Json :=
  (entries.filter (·.1 = number)).map Prod.snd

def named (entries : List (Nat × Json)) : List (String × Json) :=
  entries.map fun entry => (toString entry.1, entry.2)

theorem valuesOf_named (number : Nat) (entries : List (Nat × Json)) :
    Json.valuesOf (toString number) (named entries) = valuesAt number entries := by
  have hsame : ∀ entry ∈ entries,
      decide (toString entry.1 = toString number) = decide (entry.1 = number) := by
    intro entry _
    exact decide_eq_decide.2 toString_injective.eq_iff
  rw [Json.valuesOf, named, List.filter_map, valuesAt, List.map_map]
  exact congrArg _ (List.filter_congr hsame)

theorem lookup_groups_named {number : Nat} {entries : List (Nat × Json)}
    (h : valuesAt number entries ≠ []) :
    Json.lookup (toString number) (Json.groups (named entries)) =
      some (Json.grouped (valuesAt number entries)) := by
  rw [← valuesOf_named] at h ⊢
  exact Json.lookup_groups_of_ne_nil h

/-- The members have a name for each number, in order of first occurrence, with its value or with
the array of its values if there are several. -/
structure Lists (entries : List (Nat × Json)) (members : Json.Members) : Prop where
  names : members.map Prod.fst = (entries.map Prod.fst).eraseDups.map toString
  once : ∀ number value, valuesAt number entries = [value] →
    Json.lookup (toString number) members = some value
  repeated : ∀ number, 2 ≤ (valuesAt number entries).length →
    Json.lookup (toString number) members = some (.array (valuesAt number entries))

theorem lists_groups (entries : List (Nat × Json)) :
    Lists entries (Json.groups (named entries)) := by
  refine ⟨?_, ?_, ?_⟩
  · rw [Json.names_groups, ← Json.eraseDups_map toString_injective, named, List.map_map,
      List.map_map]
    rfl
  · intro number value hvalue
    rw [lookup_groups_named (hvalue ▸ List.cons_ne_nil value []), hvalue]
    rfl
  · intro number hlength
    rw [lookup_groups_named (List.ne_nil_of_length_pos (by omega)), Json.grouped_of_two_le hlength]

/-! ### What stands for a value -/

mutual
/-- The JSON value stands for the value of a field, and in a message, at every level, the members
for its fields. -/
inductive Payload.Shows : Payload → Json → Prop where
  | varint (n : UInt64) : Payload.Shows (.varint n) (.ofNat n.toNat)
  | fixed64 (n : UInt64) : Payload.Shows (.fixed64 n) (.ofNat n.toNat)
  | fixed32 (n : UInt32) : Payload.Shows (.fixed32 n) (.ofNat n.toNat)
  | bytes (content : Bytes) :
    Payload.Shows (.bytes content) (.string (String.ofList (Binary.ofBytes content)))
  | message {fields : List (Tagged Payload)} {entries : List (Nat × Json)}
    {members : Json.Members} (hentries : FieldsShow fields entries)
    (hmembers : Lists entries members) : Payload.Shows (.message fields) (.object members)

/-- The entries are the numbers of the fields with values that stand for theirs. -/
inductive FieldsShow : List (Tagged Payload) → List (Nat × Json) → Prop where
  | nil : FieldsShow [] []
  | cons {payload : Payload} {value : Json} {rest : List (Tagged Payload)}
    {entries : List (Nat × Json)} (number : Nat) (wireType : WireType)
    (hvalue : Payload.Shows payload value) (hrest : FieldsShow rest entries) :
    FieldsShow (⟨number, wireType, payload⟩ :: rest) ((number, value) :: entries)
end

theorem Payload.Shows.ne_array {payload : Payload} {value : Json} (h : payload.Shows value)
    (items : List Json) : value ≠ .array items := by
  cases h <;> simp [Json.ofNat]

theorem FieldsShow.numbers {fields : List Field} {entries : List (Nat × Json)}
    (h : FieldsShow fields entries) : entries.map Prod.fst = fields.map Tagged.number := by
  induction fields generalizing entries with
  | nil =>
    cases h
    rfl
  | cons field rest ih =>
    cases h with
    | cons number wireType hvalue hrest => rw [List.map_cons, List.map_cons, ih hrest]

theorem FieldsShow.ne_array {fields : List Field} {entries : List (Nat × Json)}
    (h : FieldsShow fields entries) (items : List Json) :
    ∀ entry ∈ entries, entry.2 ≠ .array items := by
  induction fields generalizing entries with
  | nil =>
    cases h
    exact List.forall_mem_nil _
  | cons field rest ih =>
    cases h with
    | cons number wireType hvalue hrest =>
      exact List.forall_mem_cons.2 ⟨hvalue.ne_array items, ih hrest⟩

mutual
theorem Payload.shows_toJson (payload : Payload) : payload.Shows (payload.toJson false) := by
  cases payload with
  | varint n => exact .varint n
  | fixed64 n => exact .fixed64 n
  | fixed32 n => exact .fixed32 n
  | bytes content => exact .bytes content
  | message fields =>
    have hmembers := lists_groups (fields.map fun field => (field.number, field.value.toJson false))
    rw [Payload.toJson_message]
    rw [named, List.map_map] at hmembers
    exact .message (fieldsShow_toJson fields) hmembers

theorem fieldsShow_toJson (fields : List (Tagged Payload)) :
    FieldsShow fields (fields.map fun field => (field.number, field.value.toJson false)) := by
  match fields with
  | [] => exact .nil
  | ⟨number, wireType, payload⟩ :: rest =>
    exact .cons number wireType payload.shows_toJson (fieldsShow_toJson rest)
end

/-! ### Arrays -/

theorem length_valuesAt (number : Nat) (entries : List (Nat × Json)) :
    (valuesAt number entries).length = (entries.map Prod.fst).count number := by
  rw [valuesAt, List.length_map, List.count_eq_countP, List.countP_map,
    List.countP_eq_length_filter]
  congr 1

theorem Lists.lookup_eq_none {entries : List (Nat × Json)} {members : Json.Members}
    (h : Lists entries members) {number : Nat} (hvalues : valuesAt number entries = []) :
    Json.lookup (toString number) members = none := by
  have hcount := length_valuesAt number entries
  rw [hvalues, List.length_nil] at hcount
  have hfresh : number ∉ entries.map Prod.fst := List.count_eq_zero.1 hcount.symm
  apply Json.lookup_of_absent
  intro member hmember hname
  have hmem : toString number ∈ members.map Prod.fst := hname ▸ List.mem_map_of_mem hmember
  rw [h.names, List.mem_map_of_injective toString_injective, List.mem_eraseDups] at hmem
  exact hfresh hmem

/-- As no value is an array by itself, an array holds the values of at least two fields. -/
theorem Lists.two_le_of_lookup {entries : List (Nat × Json)} {members : Json.Members}
    (h : Lists entries members) (hsingle : ∀ entry ∈ entries, ∀ items, entry.2 ≠ .array items)
    {number : Nat} {items : List Json}
    (hlookup : Json.lookup (toString number) members = some (.array items)) :
    2 ≤ items.length ∧ items.length = (entries.map Prod.fst).count number := by
  rw [← length_valuesAt]
  match hvalues : valuesAt number entries with
  | [] =>
    rw [h.lookup_eq_none hvalues] at hlookup
    cases hlookup
  | [value] =>
    have hmem : value ∈ valuesAt number entries := hvalues ▸ List.mem_cons_self
    obtain ⟨entry, hentry, rfl⟩ := List.mem_map.1 hmem
    rw [h.once number _ hvalues, Option.some.injEq] at hlookup
    exact absurd hlookup (hsingle entry (List.mem_filter.1 hentry).1 items)
  | first :: second :: rest =>
    have hlength : 2 ≤ (valuesAt number entries).length := by simp [hvalues]
    rw [h.repeated number hlength, hvalues] at hlookup
    obtain rfl : first :: second :: rest = items := by simpa using hlookup
    exact ⟨by simp, rfl⟩

/--
A message that reads is shown as an object: for every field, at every level, the number and what
stands for its value are there, in order.  No value of a field is an array, so an array always means
a number that occurs more than once.
-/
theorem decode_shows :
    (∀ bytes fields, parseMessage bytes = .ok fields →
      ∃ members, decode bytes = .ok (.object members) ∧
        (Payload.message fields).Shows (.object members)) ∧
    (∀ payload value, Payload.Shows payload value → ∀ items, value ≠ .array items) ∧
    ∀ fields members, (Payload.message fields).Shows (.object members) →
      ∀ number items, Json.lookup (toString number) members = some (.array items) →
        2 ≤ items.length ∧ items.length = (fields.map Tagged.number).count number := by
  refine ⟨?_, fun payload value h => h.ne_array, ?_⟩
  · intro bytes fields hparse
    have hshows := (Payload.message fields).shows_toJson
    have hdecode : decode bytes = .ok ((Payload.message fields).toJson false) :=
      map_render_eq_ok_iff.2 ⟨fields, hparse, rfl⟩
    rw [Payload.toJson_message] at hshows hdecode
    exact ⟨_, hdecode, hshows⟩
  · intro fields members hshows number items hlookup
    cases hshows with
    | message hentries hmembers =>
      have hsingle := fun entry hentry items => hentries.ne_array items entry hentry
      rw [← hentries.numbers]
      exact hmembers.two_le_of_lookup hsingle hlookup

/-- A number that occurs again behind a nested message, in which one occurs again too. -/
theorem decode_shows_repeated :
    let bytes : Bytes := [0x08, 0x05, 0x12, 0x04, 0x08, 0x01, 0x08, 0x02, 0x08, 0x06]
    let inner : List Field := [⟨1, .varint, .varint 1⟩, ⟨1, .varint, .varint 2⟩]
    let fields : List Field := [⟨1, .varint, .varint 5⟩, ⟨2, .lengthDelimited, .message inner⟩,
      ⟨1, .varint, .varint 6⟩]
    let members : Json.Members := [("1", .array [.ofNat 5, .ofNat 6]),
      ("2", .object [("1", .array [.ofNat 1, .ofNat 2])])]
    parseMessage bytes = .ok fields ∧ decode bytes = .ok (.object members) ∧
      (Payload.message fields).Shows (.object members) ∧
      (fields.map Tagged.number).count 1 = 2 := by
  intro bytes inner fields members
  have hparse : parseMessage bytes = .ok fields := by cbv
  have hdecode : decode bytes = .ok (.object members) := by cbv
  obtain ⟨hread, -, harray⟩ := decode_shows
  obtain ⟨found, hfound, hshows⟩ := hread bytes fields hparse
  obtain rfl : members = found := by
    rw [hdecode] at hfound
    exact Json.object.inj (Except.ok.inj hfound)
  have hlookup : Json.lookup (toString 1) members = some (.array [.ofNat 5, .ofNat 6]) := rfl
  exact ⟨hparse, hdecode, hshows, (harray fields members hshows 1 _ hlookup).2.symm⟩

end TrackerTraffic.Wire
