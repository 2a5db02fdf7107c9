import TrackerTraffic.Wire.Varint

/-!
# Reading tagged binary records

A cursor is a place in a buffer: its offset and the bytes from there on.  The
readers answer with the cursor behind what they took, also when they fail.
-/

namespace TrackerTraffic.Wire

/-- How the value of a field is written. -/
inductive WireType where
  | varint
  | fixed64
  | lengthDelimited
  | fixed32
deriving DecidableEq

namespace WireType

/-- The three bits of the type in a tag. -/
def bits : WireType → Nat
  | varint => 0
  | fixed64 => 1
  | lengthDelimited => 2
  | fixed32 => 5

/-- The type of three bits, if they name one. -/
def ofBits? : Nat → Option WireType
  | 0 => some varint
  | 1 => some fixed64
  | 2 => some lengthDelimited
  | 5 => some fixed32
  | _ => none

def name : WireType → String
  | varint => "varint"
  | fixed64 => "fixed64"
  | lengthDelimited => "length-delimited"
  | fixed32 => "fixed32"

end WireType

/-- Why bytes are not a record. -/
inductive WireError where
  | exhausted (offset needed available : Nat)
  | unknownWireType (wireType offset : Nat)
  | varintOverflow (offset : Nat)
  | invalidFieldNumber (offset : Nat)
deriving DecidableEq

def WireError.message : WireError → String
  | .exhausted offset needed available =>
    s!"exhausted buffer at offset {offset}: needed {needed} bytes, {available} available"
  | .unknownWireType wireType offset => s!"unknown wire type {wireType} at offset {offset}"
  | .varintOverflow offset => s!"varint longer than 10 bytes at offset {offset}"
  | .invalidFieldNumber offset => s!"invalid field number 0 at offset {offset}"

/-- A place in a buffer. -/
structure Cursor where
  offset : Nat
  rest : Bytes
deriving DecidableEq

namespace Cursor

def start (bytes : Bytes) : Cursor := ⟨0, bytes⟩

def available (c : Cursor) : Nat := c.rest.length

/-- The place from which the bytes `after` are left. -/
def moveTo (c : Cursor) (after : Bytes) : Cursor :=
  ⟨c.offset + (c.rest.length - after.length), after⟩

/-- Reads a varint of at most ten bytes. -/
def varint (c : Cursor) : Except WireError UInt64 × Cursor :=
  match Varint.read 10 c.rest with
  | (.value n, after) => (.ok (UInt64.ofNat n), c.moveTo after)
  | (.cutShort, after) => (.error (.exhausted (c.moveTo after).offset 1 0), c.moveTo after)
  | (.tooLong, after) => (.error (.varintOverflow c.offset), c.moveTo after)

def slice (count : Nat) (c : Cursor) : Except WireError Bytes × Cursor :=
  if c.available < count then (.error (.exhausted c.offset count c.available), c)
  else (.ok (c.rest.take count), c.moveTo (c.rest.drop count))

/-- Reads four bytes, least significant first. -/
def fixed32 (c : Cursor) : Except WireError UInt32 × Cursor :=
  match c.slice 4 with
  | (.ok bytes, after) => (.ok (UInt32.ofNat (Bytes.littleEndian bytes)), after)
  | (.error e, after) => (.error e, after)

/-- Reads eight bytes, least significant first. -/
def fixed64 (c : Cursor) : Except WireError UInt64 × Cursor :=
  match c.slice 8 with
  | (.ok bytes, after) => (.ok (UInt64.ofNat (Bytes.littleEndian bytes)), after)
  | (.error e, after) => (.error e, after)

/-- Reads a tag: a field number, which is not zero, and the type of the value behind it. -/
def tag (c : Cursor) : Except WireError (Nat × WireType) × Cursor :=
  match c.varint with
  | (.error e, after) => (.error e, after)
  | (.ok word, after) =>
    if word.toNat / 8 = 0 then (.error (.invalidFieldNumber c.offset), after)
    else
      match WireType.ofBits? (word.toNat % 8) with
      | some wireType => (.ok (word.toNat / 8, wireType), after)
      | none => (.error (.unknownWireType (word.toNat % 8) c.offset), after)

/-! ### Progress -/

theorem varint_length {c after : Cursor} {n : UInt64} (h : c.varint = (.ok n, after)) :
    after.rest.length < c.rest.length := by
  unfold varint at h
  split at h
  · rename_i heq
    have := Varint.read_length_lt heq
    simp only [Prod.mk.injEq] at h
    simpa [← h.2, moveTo] using this
  · simp at h
  · simp at h

theorem slice_length {count : Nat} {c after : Cursor} {bytes : Bytes}
    (h : c.slice count = (.ok bytes, after)) :
    bytes.length + after.rest.length = c.rest.length := by
  unfold slice at h
  split at h
  · simp at h
  · rename_i hlt
    simp only [Prod.mk.injEq, Except.ok.injEq] at h
    simp only [← h.1, ← h.2, moveTo, List.length_take, List.length_drop]
    simp only [available] at hlt
    omega

theorem tag_length {c after : Cursor} {t : Nat × WireType} (h : c.tag = (.ok t, after)) :
    after.rest.length < c.rest.length := by
  unfold tag at h
  split at h
  · simp at h
  · rename_i heq
    have := varint_length heq
    split at h
    · simp at h
    · split at h
      · simp only [Prod.mk.injEq] at h
        simpa [← h.2] using this
      · simp at h

end Cursor

end TrackerTraffic.Wire
