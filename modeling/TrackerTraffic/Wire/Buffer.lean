import TrackerTraffic.Wire.Cursor

/-!
# Reading at positions of a buffer

The readers over a buffer that stays as it is and a position in it.  Words are put together bit by
bit.  It is a fault to subtract a position beyond the end from the length of the buffer, or to cut
a slice that is not all in the buffer.
-/

namespace TrackerTraffic.Wire

/-- A buffer and the position of the next byte. -/
structure Buffer where
  bytes : Bytes
  position : Nat
deriving DecidableEq

namespace Buffer

def start (bytes : Bytes) : Buffer := ⟨bytes, 0⟩

/-- The number of bytes from the position on. -/
def remaining? (b : Buffer) : Option Nat :=
  if b.position ≤ b.bytes.length then some (b.bytes.length - b.position) else none

/-- The bytes between two positions. -/
def cut? (first behind : Nat) (bytes : Bytes) : Option Bytes :=
  if first ≤ behind ∧ behind ≤ bytes.length then some ((bytes.take behind).drop first) else none

def advance (count : Nat) (b : Buffer) : Buffer := ⟨b.bytes, b.position + count⟩

/-- Fails for want of bytes; like every reader it answers with the position behind it. -/
def exhausted {α : Type} (needed : Nat) (b : Buffer) : Option (Except WireError α × Buffer) := do
  let available ← b.remaining?
  return (.error (.exhausted b.position needed available), b)

/-- Takes up to `left` bytes of a varint that started elsewhere into the word of its groups. -/
def varintFrom (start : Nat) :
    Nat → Nat → UInt64 → Buffer → Option (Except WireError UInt64 × Buffer)
  | 0, _, _, b => some (.error (.varintOverflow start), b)
  | left + 1, groups, word, b =>
    match b.bytes[b.position]? with
    | none => b.exhausted 1
    | some byte =>
      let word := word ||| (byte &&& 0x7f).toUInt64 <<< UInt64.ofNat (7 * groups)
      if byte &&& 0x80 = 0 then some (.ok word, b.advance 1)
      else varintFrom start left (groups + 1) word (b.advance 1)

def varint (b : Buffer) : Option (Except WireError UInt64 × Buffer) :=
  varintFrom b.position 10 0 0 b

def slice (count : Nat) (b : Buffer) : Option (Except WireError Bytes × Buffer) := do
  if (← b.remaining?) < count then b.exhausted count
  else return (.ok (← cut? b.position (b.position + count) b.bytes), b.advance count)

/-- Reads a word of so many bytes, least significant first; it is a fault to get another number. -/
def fixed {α : Type} (count : Nat) (word : Nat → α) (b : Buffer) :
    Option (Except WireError α × Buffer) := do
  match ← b.slice count with
  | (.error e, after) => return (.error e, after)
  | (.ok bytes, after) =>
    if bytes.length = count then return (.ok (word (Bytes.littleEndian bytes)), after) else none

def fixed32 (b : Buffer) : Option (Except WireError UInt32 × Buffer) := b.fixed 4 UInt32.ofNat

def fixed64 (b : Buffer) : Option (Except WireError UInt64 × Buffer) := b.fixed 8 UInt64.ofNat

def tag (b : Buffer) : Option (Except WireError (Nat × WireType) × Buffer) := do
  match ← b.varint with
  | (.error e, after) => return (.error e, after)
  | (.ok word, after) =>
    if word >>> 3 = 0 then return (.error (.invalidFieldNumber b.position), after)
    else
      match WireType.ofBits? (word &&& 7).toNat with
      | some wireType => return (.ok ((word >>> 3).toNat, wireType), after)
      | none => return (.error (.unknownWireType (word &&& 7).toNat b.position), after)

end Buffer

/-! ### Calls -/

/-- One use of a reader. -/
inductive Call where
  | varint
  | fixed32
  | fixed64
  | slice (count : Nat)
  | tag

/-- What a call reads. -/
inductive Taken where
  | varint (value : UInt64)
  | fixed32 (value : UInt32)
  | fixed64 (value : UInt64)
  | slice (content : Bytes)
  | tag (number : Nat) (wireType : WireType)

def Cursor.call (c : Cursor) : Call → Except WireError Taken × Cursor
  | .varint => c.varint.map (·.map .varint) id
  | .fixed32 => c.fixed32.map (·.map .fixed32) id
  | .fixed64 => c.fixed64.map (·.map .fixed64) id
  | .slice count => (c.slice count).map (·.map .slice) id
  | .tag => c.tag.map (·.map fun t => .tag t.1 t.2) id

def Buffer.call (b : Buffer) : Call → Option (Except WireError Taken × Buffer)
  | .varint => b.varint.map (·.map (·.map .varint) id)
  | .fixed32 => b.fixed32.map (·.map (·.map .fixed32) id)
  | .fixed64 => b.fixed64.map (·.map (·.map .fixed64) id)
  | .slice count => (b.slice count).map (·.map (·.map .slice) id)
  | .tag => b.tag.map (·.map (·.map fun t => .tag t.1 t.2) id)

/-- Calls one after another, also after one that failed; their answers in order. -/
def Cursor.run : List Call → Cursor → List (Except WireError Taken) × Cursor
  | [], c => ([], c)
  | call :: calls, c =>
    let (answer, c) := c.call call
    let (answers, c) := run calls c
    (answer :: answers, c)

def Buffer.run : List Call → Buffer → Option (List (Except WireError Taken) × Buffer)
  | [], b => some ([], b)
  | call :: calls, b => do
    let (answer, b) ← b.call call
    let (answers, b) ← run calls b
    return (answer :: answers, b)

end TrackerTraffic.Wire
