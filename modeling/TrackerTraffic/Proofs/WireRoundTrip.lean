import TrackerTraffic.Proofs.WireRecord

/-!
# The fields of written messages

The reader tries every slice as a message and keeps its bytes if that fails, so
not every list of fields is the reading of some bytes.  Those that are one are
the canonical ones, and a canonical list is what its own encoding reads as.
-/

namespace TrackerTraffic.Wire

/-! ### Canonical fields -/

mutual
/-- The payload is one that a reader comes to: no message is empty, and no slice kept as bytes
reads as a message. -/
def Payload.Canonical : Payload → Prop
  | .bytes content => content = [] ∨ ∃ e, parseMessage content = .error e
  | .message fields => fields ≠ [] ∧ CanonicalFields fields
  | _ => True

/-- Every number fits a tag, every wire type is its payload's, and every payload is canonical. -/
def CanonicalFields : List (Tagged Payload) → Prop
  | [] => True
  | ⟨number, wireType, payload⟩ :: rest =>
    (1 ≤ number ∧ number ≤ 2 ^ 61 - 1) ∧ wireType = payload.wireType ∧ payload.Canonical ∧
      CanonicalFields rest
end

mutual
/-- The lengths of all slices in the payload's encoding fit a word. -/
def Payload.Fits : Payload → Prop
  | .bytes content => content.length < 2 ^ 64
  | .message fields => (encodeFields fields).length < 2 ^ 64 ∧ FieldsFit fields
  | _ => True

def FieldsFit : List (Tagged Payload) → Prop
  | [] => True
  | ⟨_, _, payload⟩ :: rest => payload.Fits ∧ FieldsFit rest
end

mutual
theorem Payload.fits_of_length (payload : Payload) (h : payload.encode.length < 2 ^ 64) :
    payload.Fits := by
  cases payload with
  | varint n => simp [Payload.Fits]
  | fixed64 n => simp [Payload.Fits]
  | fixed32 n => simp [Payload.Fits]
  | bytes content =>
    rw [Payload.encode, List.length_append] at h
    rw [Payload.Fits]
    omega
  | message fields =>
    simp only [Payload.encode, List.length_append] at h
    have hlength : (encodeFields fields).length < 2 ^ 64 := by omega
    rw [Payload.Fits]
    exact ⟨hlength, fieldsFit_of_length fields hlength⟩

/-- Slices are no longer than the message that they stand in. -/
theorem fieldsFit_of_length (fields : List (Tagged Payload))
    (h : (encodeFields fields).length < 2 ^ 64) : FieldsFit fields := by
  match fields with
  | [] => simp [FieldsFit]
  | ⟨number, wireType, payload⟩ :: rest =>
    simp only [encodeFields, List.length_append] at h
    rw [FieldsFit]
    exact ⟨payload.fits_of_length (by omega), fieldsFit_of_length rest (by omega)⟩
end

/-! ### Slices as payloads -/

/-- The value as it stands in its record, nested messages written out. -/
def Payload.raw : Payload → RawValue
  | .varint n => .varint n
  | .fixed64 n => .fixed64 n
  | .fixed32 n => .fixed32 n
  | .bytes content => .slice content
  | .message fields => .slice (encodeFields fields)

/-- The payload that a reader makes of a raw value. -/
def RawValue.payload : RawValue → Payload
  | .varint n => .varint n
  | .fixed64 n => .fixed64 n
  | .fixed32 n => .fixed32 n
  | .slice content =>
    if content.isEmpty then .bytes content
    else
      match parseMessage content with
      | .ok fields => .message fields
      | .error _ => .bytes content

theorem Payload.raw_wireType (payload : Payload) : payload.raw.wireType = payload.wireType := by
  cases payload <;> rfl

theorem Payload.raw_encode (payload : Payload) : payload.raw.encode = payload.encode := by
  cases payload <;> simp only [Payload.raw, RawValue.encode, Payload.encode]

theorem Payload.raw_content_length (payload : Payload) (h : payload.Fits) :
    payload.raw.content.length < 2 ^ 64 := by
  cases payload with
  | varint n => simp [Payload.raw, RawValue.content]
  | fixed64 n => simp [Payload.raw, RawValue.content]
  | fixed32 n => simp [Payload.raw, RawValue.content]
  | bytes content => simpa [Payload.raw, RawValue.content, Payload.Fits] using h
  | message fields =>
    rw [Payload.Fits] at h
    simpa [Payload.raw, RawValue.content] using h.1

theorem RawValue.payload_slice_nil : (RawValue.slice []).payload = .bytes [] := rfl

theorem RawValue.payload_slice_ok {content : Bytes} {fields : List Field} (hne : content ≠ [])
    (h : parseMessage content = .ok fields) :
    (RawValue.slice content).payload = .message fields := by
  rw [RawValue.payload, if_neg (by simpa using hne), h]

theorem RawValue.payload_slice_error {content : Bytes} {e : WireError}
    (h : parseMessage content = .error e) : (RawValue.slice content).payload = .bytes content := by
  rw [RawValue.payload, h, ite_self]

/-! ### The reader, record by record -/

theorem parseFrom_nil (offset : Nat) : parseFrom ⟨offset, []⟩ = .ok [] := by
  rw [parseFrom]
  rfl

theorem parseFrom_of_error {c : Cursor} {e : WireError} (hne : c.rest ≠ [])
    (h : readRecord c = .error e) : parseFrom c = .error e := by
  rw [parseFrom, if_neg (by simpa using hne)]
  split
  · rename_i heq
    rw [h] at heq
    rw [Except.error.inj heq]
  · rename_i heq
    rw [h] at heq
    simp at heq

theorem parseFrom_of_ok {c : Cursor} {r : Record} (hne : c.rest ≠ []) (h : readRecord c = .ok r) :
    parseFrom c =
      (parseFrom r.after).map (⟨r.number, r.wireType, r.value.payload⟩ :: ·) := by
  rw [parseFrom, if_neg (by simpa using hne)]
  split
  · rename_i heq
    rw [h] at heq
    simp at heq
  · rename_i heq
    rw [h] at heq
    simp only [Except.ok.injEq] at heq
    subst heq
    obtain ⟨⟨number, wireType, value⟩, after⟩ := r
    cases value <;> cases parseFrom after <;> rfl

/-- The ways to read fields: nothing is left, or a record stands in front of further fields. -/
theorem parseFrom_cases {c : Cursor} {fields : List Field} (h : parseFrom c = .ok fields) :
    (c.rest = [] ∧ fields = []) ∨
      ∃ r others, readRecord c = .ok r ∧ parseFrom r.after = .ok others ∧
        fields = ⟨r.number, r.wireType, r.value.payload⟩ :: others := by
  by_cases hnil : c.rest = []
  · obtain ⟨offset, rest⟩ := c
    subst hnil
    rw [parseFrom_nil, Except.ok.injEq] at h
    exact .inl ⟨rfl, h.symm⟩
  · cases hrecord : readRecord c with
    | error e =>
      rw [parseFrom_of_error hnil hrecord] at h
      simp at h
    | ok r =>
      rw [parseFrom_of_ok hnil hrecord] at h
      cases hothers : parseFrom r.after with
      | error e =>
        rw [hothers] at h
        simp [Except.map] at h
      | ok others =>
        rw [hothers] at h
        simp only [Except.map, Except.ok.injEq] at h
        exact .inr ⟨r, others, rfl, hothers, h.symm⟩

theorem parseMessage_ne_nil {content : Bytes} {fields : List Field} (hne : content ≠ [])
    (h : parseMessage content = .ok fields) : fields ≠ [] := by
  rcases parseFrom_cases h with ⟨hnil, -⟩ | ⟨r, others, -, -, hcons⟩
  · exact absurd hnil hne
  · rw [hcons]
    simp

/-! ### Reading what was written -/

theorem encodeFields_cons_ne_nil (field : Field) (rest : List Field) :
    encodeFields (field :: rest) ≠ [] := by
  have hpos := Varint.encodeNat_length_pos (field.number * 8 + field.wireType.bits)
  intro hnil
  have hlength := congrArg List.length hnil
  simp only [encodeFields, encodeTag, List.length_append, List.length_nil] at hlength
  omega

/-- One field in front of a message adds itself to the reading of what follows it. -/
theorem parseFrom_encodeField {number : Nat} (hnumber : 1 ≤ number ∧ number ≤ 2 ^ 61 - 1)
    {payload : Payload} (hfits : payload.Fits) (hraw : payload.raw.payload = payload)
    {rest : List Field} (hrest : ∀ offset, parseFrom ⟨offset, encodeFields rest⟩ = .ok rest)
    (offset : Nat) :
    parseFrom ⟨offset, encodeFields (⟨number, payload.wireType, payload⟩ :: rest)⟩ =
      .ok (⟨number, payload.wireType, payload⟩ :: rest) := by
  have hcontent := payload.raw_content_length hfits
  obtain ⟨behind, hrecord⟩ := readRecord_encode hnumber.1 (by omega) payload.raw hcontent offset
    (encodeFields rest)
  rw [Payload.raw_wireType, Payload.raw_encode] at hrecord
  rw [← encodeFields] at hrecord
  have hne := encodeFields_cons_ne_nil ⟨number, payload.wireType, payload⟩ rest
  have hparse := parseFrom_of_ok hne hrecord
  rw [hparse]
  simp only [hrest behind, Except.map, hraw]

mutual
theorem Payload.payload_raw (payload : Payload) (hcanonical : payload.Canonical)
    (hfits : payload.Fits) : payload.raw.payload = payload := by
  cases payload with
  | varint n => rfl
  | fixed64 n => rfl
  | fixed32 n => rfl
  | bytes content =>
    rw [Payload.Canonical] at hcanonical
    rcases hcanonical with hnil | ⟨e, herror⟩
    · rw [hnil]
      rfl
    · exact RawValue.payload_slice_error herror
  | message fields =>
    rw [Payload.Canonical] at hcanonical
    rw [Payload.Fits] at hfits
    obtain ⟨first, others, hcons⟩ := List.exists_cons_of_ne_nil hcanonical.1
    have hne : encodeFields fields ≠ [] := hcons ▸ encodeFields_cons_ne_nil first others
    exact RawValue.payload_slice_ok hne
      (parseFrom_encodeFields fields hcanonical.2 hfits.2 0)

/-- Canonical fields are what their encoding reads as, from any offset. -/
theorem parseFrom_encodeFields (fields : List (Tagged Payload))
    (hcanonical : CanonicalFields fields) (hfits : FieldsFit fields) (offset : Nat) :
    parseFrom ⟨offset, encodeFields fields⟩ = .ok fields := by
  match fields with
  | [] =>
    rw [encodeFields]
    exact parseFrom_nil offset
  | ⟨number, wireType, payload⟩ :: rest =>
    rw [CanonicalFields] at hcanonical
    obtain ⟨hnumber, htype, hpayload, hrest⟩ := hcanonical
    rw [FieldsFit] at hfits
    subst htype
    exact parseFrom_encodeField hnumber hfits.1 (payload.payload_raw hpayload hfits.1)
      (parseFrom_encodeFields rest hrest hfits.2) offset
end

/-! ### Writing what was read -/

/-- What holds of the fields that a reader finds in so many bytes. -/
structure Readable (fields : List Field) (size : Nat) : Prop where
  canonical : CanonicalFields fields
  fits : FieldsFit fields
  length_le : (encodeFields fields).length ≤ size

theorem Readable.nil (size : Nat) : Readable [] size :=
  ⟨by simp [CanonicalFields], by simp [FieldsFit], by simp [encodeFields]⟩

structure RawValue.ReadsAs (v : RawValue) (payload : Payload) : Prop where
  wireType_eq : payload.wireType = v.wireType
  canonical : payload.Canonical
  fits : payload.Fits
  length_le : payload.encode.length ≤ v.encode.length

/-- A slice that is kept, as a message or as bytes, is written in no more bytes than it had. -/
theorem RawValue.readsAs_payload (v : RawValue) (hcontent : v.content.length < 2 ^ 64)
    (ih : ∀ fields, parseMessage v.content = .ok fields → Readable fields v.content.length) :
    v.ReadsAs v.payload := by
  cases v with
  | varint n =>
    exact ⟨rfl, by simp [payload, Payload.Canonical], by simp [payload, Payload.Fits],
      by simp [payload, Payload.encode, RawValue.encode]⟩
  | fixed64 n =>
    exact ⟨rfl, by simp [payload, Payload.Canonical], by simp [payload, Payload.Fits],
      by simp [payload, Payload.encode, RawValue.encode]⟩
  | fixed32 n =>
    exact ⟨rfl, by simp [payload, Payload.Canonical], by simp [payload, Payload.Fits],
      by simp [payload, Payload.encode, RawValue.encode]⟩
  | slice content =>
    have hbytes (hkept : content = [] ∨ ∃ e, parseMessage content = .error e) :
        (slice content).ReadsAs (.bytes content) :=
      ⟨rfl, by rwa [Payload.Canonical], by rwa [Payload.Fits],
        by simp [Payload.encode, RawValue.encode]⟩
    by_cases hnil : content = []
    · rw [hnil, payload_slice_nil]
      exact hnil ▸ hbytes (.inl hnil)
    · cases hparse : parseMessage content with
      | error e =>
        rw [payload_slice_error hparse]
        exact hbytes (.inr ⟨e, hparse⟩)
      | ok fields =>
        have hfields : Readable fields content.length := ih fields hparse
        have hfits : content.length < 2 ^ 64 := hcontent
        have hle := hfields.length_le
        have hprefix := Varint.encodeNat_length_mono hle
        rw [payload_slice_ok hnil hparse]
        refine ⟨rfl, ?_, ?_, ?_⟩
        · rw [Payload.Canonical]
          exact ⟨parseMessage_ne_nil hnil hparse, hfields.canonical⟩
        · rw [Payload.Fits]
          exact ⟨by omega, hfields.fits⟩
        · simp only [Payload.encode, RawValue.encode, List.length_append]
          omega

/-- What a reader comes to is canonical and written in no more bytes than it was read from. -/
theorem readable_of_parseFrom {c : Cursor} {fields : List Field} (h : parseFrom c = .ok fields) :
    Readable fields c.rest.length := by
  -- the slice of a record and the text behind it are both shorter than the text it stands in
  induction hsize : c.rest.length using Nat.strongRecOn generalizing c fields with
  | ind size ih =>
    rcases parseFrom_cases h with ⟨-, hnil⟩ | ⟨r, others, hrecord, hothers, hcons⟩
    · rw [hnil]
      exact Readable.nil size
    · obtain ⟨hnumber, htype, hcontent, hlength⟩ := readRecord_size hrecord
      have hshorter := readRecord_length hrecord
      have hslice : r.value.ReadsAs r.value.payload :=
        r.value.readsAs_payload hcontent fun nested hnested =>
          ih r.value.content.length (by omega) hnested rfl
      have hrest : Readable others r.after.rest.length :=
        ih r.after.rest.length (by omega) hothers rfl
      have hvalueLength := hslice.length_le
      have hrestLength := hrest.length_le
      rw [hcons]
      refine ⟨?_, ?_, ?_⟩
      · rw [CanonicalFields]
        exact ⟨by omega, by rw [hslice.wireType_eq, htype], hslice.canonical, hrest.canonical⟩
      · rw [FieldsFit]
        exact ⟨hslice.fits, hrest.fits⟩
      · simp only [encodeFields, List.length_append]
        omega

/-! ### The round trip -/

/--
Canonical fields are what their encoding reads as, and only canonical fields are read: bytes that
read as a message at all read as the same message when it is written back.
-/
theorem parseMessage_round_trip :
    (∀ fields : List Field, CanonicalFields fields → (encodeFields fields).length < 2 ^ 64 →
      parseMessage (encodeFields fields) = .ok fields) ∧
    ∀ (bytes : Bytes) (fields : List Field), parseMessage bytes = .ok fields →
      CanonicalFields fields ∧ parseMessage (encodeFields fields) = parseMessage bytes := by
  refine ⟨?_, ?_⟩
  · intro fields hcanonical hlength
    exact parseFrom_encodeFields fields hcanonical (fieldsFit_of_length fields hlength) 0
  · intro bytes fields hparse
    have hfields : Readable fields bytes.length := readable_of_parseFrom hparse
    refine ⟨hfields.canonical, ?_⟩
    rw [hparse]
    exact parseFrom_encodeFields fields hfields.canonical hfields.fits 0

/-- A message inside a message with a slice that is none, and a tag spelled with a byte too many. -/
theorem parseMessage_round_trip_nested :
    let inner : List Field := [⟨1, .varint, .varint 300⟩, ⟨2, .lengthDelimited, .bytes [0x61]⟩]
    let fields : List Field :=
      [⟨3, .lengthDelimited, .message inner⟩, ⟨2 ^ 61 - 1, .fixed32, .fixed32 7⟩]
    (CanonicalFields fields ∧ (encodeFields fields).length < 2 ^ 64 ∧
      parseMessage (encodeFields fields) = .ok fields) ∧
    parseMessage [0x88, 0x00, 0x05] = .ok [⟨1, .varint, .varint 5⟩] ∧
      CanonicalFields [⟨1, .varint, .varint 5⟩] ∧
      parseMessage (encodeFields [⟨1, .varint, .varint 5⟩]) = parseMessage [0x88, 0x00, 0x05] := by
  intro inner fields
  have hnone : parseMessage [0x61] = .error (.exhausted 1 8 0) := by cbv
  have hcanonical : CanonicalFields fields := by
    simp [fields, inner, CanonicalFields, Payload.Canonical, Payload.wireType, hnone]
  have hlength : (encodeFields fields).length = 22 := by cbv
  have hoverlong : parseMessage [0x88, 0x00, 0x05] = .ok [⟨1, .varint, .varint 5⟩] := by cbv
  exact ⟨⟨hcanonical, by omega, parseMessage_round_trip.1 fields hcanonical (by omega)⟩,
    hoverlong, parseMessage_round_trip.2 _ _ hoverlong⟩

end TrackerTraffic.Wire
