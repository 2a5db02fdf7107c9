import TrackerTraffic.Wire.Cursor

/-!
# Messages of tagged fields

A message is a sequence of records, each a tag and a value.  A length-delimited
value that is not empty and reads as a message in its turn is one; any other
stays raw bytes.  `encode` writes a message back.
-/

namespace TrackerTraffic.Wire

/-- A value with the number and the wire type of the tag in front of it. -/
structure Tagged (α : Type) where
  number : Nat
  wireType : WireType
  value : α

/-- The value of a field; a message is a list of tagged values. -/
inductive Payload where
  | varint (value : UInt64)
  | fixed64 (value : UInt64)
  | fixed32 (value : UInt32)
  | bytes (content : Bytes)
  | message (fields : List (Tagged Payload))

abbrev Field := Tagged Payload

def Payload.wireType : Payload → WireType
  | varint _ => .varint
  | fixed64 _ => .fixed64
  | fixed32 _ => .fixed32
  | bytes _ => .lengthDelimited
  | message _ => .lengthDelimited

/-! ### Records -/

/-- A value as it stands in its record: a length-delimited one is not looked into. -/
inductive RawValue where
  | varint (value : UInt64)
  | fixed64 (value : UInt64)
  | fixed32 (value : UInt32)
  | slice (content : Bytes)

/-- One record and the place behind it. -/
structure Record extends Tagged RawValue where
  after : Cursor

def readValue (wireType : WireType) (c : Cursor) : Except WireError (RawValue × Cursor) :=
  match wireType with
  | .varint =>
    match c.varint with
    | (.ok n, after) => .ok (.varint n, after)
    | (.error e, _) => .error e
  | .fixed64 =>
    match c.fixed64 with
    | (.ok n, after) => .ok (.fixed64 n, after)
    | (.error e, _) => .error e
  | .fixed32 =>
    match c.fixed32 with
    | (.ok n, after) => .ok (.fixed32 n, after)
    | (.error e, _) => .error e
  | .lengthDelimited =>
    match c.varint with
    | (.error e, _) => .error e
    | (.ok n, after) =>
      match after.slice n.toNat with
      | (.ok content, after) => .ok (.slice content, after)
      | (.error e, _) => .error e

def readRecord (c : Cursor) : Except WireError Record :=
  match c.tag with
  | (.error e, _) => .error e
  | (.ok (number, wireType), after) =>
    match readValue wireType after with
    | .ok (value, after) => .ok ⟨⟨number, wireType, value⟩, after⟩
    | .error e => .error e

/-- The bytes of a slice; other values have none. -/
def RawValue.content : RawValue → Bytes
  | slice content => content
  | _ => []

theorem fixed64_length {c after : Cursor} {n : UInt64} (h : c.fixed64 = (.ok n, after)) :
    after.rest.length ≤ c.rest.length := by
  unfold Cursor.fixed64 at h
  split at h
  · rename_i heq
    have := Cursor.slice_length heq
    simp only [Prod.mk.injEq] at h
    rw [← h.2]
    omega
  · simp at h

theorem fixed32_length {c after : Cursor} {n : UInt32} (h : c.fixed32 = (.ok n, after)) :
    after.rest.length ≤ c.rest.length := by
  unfold Cursor.fixed32 at h
  split at h
  · rename_i heq
    have := Cursor.slice_length heq
    simp only [Prod.mk.injEq] at h
    rw [← h.2]
    omega
  · simp at h

theorem readValue_length {wireType : WireType} {c after : Cursor} {v : RawValue}
    (h : readValue wireType c = .ok (v, after)) :
    v.content.length + after.rest.length ≤ c.rest.length := by
  unfold readValue at h
  split at h
  · split at h
    · rename_i heq
      have := Cursor.varint_length heq
      simp only [Except.ok.injEq, Prod.mk.injEq] at h
      simp only [← h.1, ← h.2, RawValue.content, List.length_nil]
      omega
    · simp at h
  · split at h
    · rename_i heq
      have := fixed64_length heq
      simp only [Except.ok.injEq, Prod.mk.injEq] at h
      simp only [← h.1, ← h.2, RawValue.content, List.length_nil]
      omega
    · simp at h
  · split at h
    · rename_i heq
      have := fixed32_length heq
      simp only [Except.ok.injEq, Prod.mk.injEq] at h
      simp only [← h.1, ← h.2, RawValue.content, List.length_nil]
      omega
    · simp at h
  · split at h
    · simp at h
    · rename_i heq
      have := Cursor.varint_length heq
      split at h
      · rename_i heq'
        have := Cursor.slice_length heq'
        simp only [Except.ok.injEq, Prod.mk.injEq] at h
        simp only [← h.1, ← h.2, RawValue.content]
        omega
      · simp at h

theorem readRecord_length {c : Cursor} {r : Record} (h : readRecord c = .ok r) :
    r.value.content.length + r.after.rest.length < c.rest.length := by
  unfold readRecord at h
  split at h
  · simp at h
  · rename_i heq
    have := Cursor.tag_length heq
    split at h
    · rename_i heq'
      have := readValue_length heq'
      simp only [Except.ok.injEq] at h
      subst h
      simp only
      omega
    · simp at h

/-! ### Messages -/

def parseFrom (c : Cursor) : Except WireError (List Field) :=
  if c.rest.isEmpty then .ok []
  else
    match h : readRecord c with
    | .error e => .error e
    | .ok record =>
      have hlt := readRecord_length h
      let payload :=
        match hv : record.value with
        | .varint n => .varint n
        | .fixed64 n => .fixed64 n
        | .fixed32 n => .fixed32 n
        | .slice content =>
          if content.isEmpty then .bytes content
          else
            have : content.length < c.rest.length := by
              simp only [hv, RawValue.content] at hlt
              omega
            match parseFrom (.start content) with
            | .ok fields => .message fields
            | .error _ => .bytes content
      match parseFrom record.after with
      | .ok fields => .ok (⟨record.number, record.wireType, payload⟩ :: fields)
      | .error e => .error e
termination_by c.rest.length
decreasing_by
  · assumption
  · omega

def parseMessage (bytes : Bytes) : Except WireError (List Field) := parseFrom (.start bytes)

/-! ### Writing -/

/-- So many bytes of a number, least significant first. -/
def littleEndian : Nat → Nat → Bytes
  | 0, _ => []
  | count + 1, n => UInt8.ofNat (n % 256) :: littleEndian count (n / 256)

def encodeTag (number : Nat) (wireType : WireType) : Bytes :=
  Varint.encodeNat (number * 8 + wireType.bits)

mutual
/-- The bytes of a value, behind its tag. -/
def Payload.encode : Payload → Bytes
  | .varint n => Varint.encode n
  | .fixed64 n => littleEndian 8 n.toNat
  | .fixed32 n => littleEndian 4 n.toNat
  | .bytes content => Varint.encodeNat content.length ++ content
  | .message fields =>
    let content := encodeFields fields
    Varint.encodeNat content.length ++ content

/-- The bytes of fields, each behind its tag. -/
def encodeFields : List (Tagged Payload) → Bytes
  | [] => []
  | ⟨number, wireType, payload⟩ :: rest =>
    encodeTag number wireType ++ payload.encode ++ encodeFields rest
end

end TrackerTraffic.Wire
