import TrackerTraffic.Bytes.Basic

/-!
# Variable length integers

A varint holds seven bits in each byte, least significant first; the high bit is
set on every byte but the last.  A reader takes at most ten bytes and keeps 64
bits of the sum.
-/

namespace TrackerTraffic.Varint

def encodeNat (n : Nat) : Bytes :=
  if n < 128 then [UInt8.ofNat n] else UInt8.ofNat (128 + n % 128) :: encodeNat (n / 128)
termination_by n

/-- The bytes of a 64 bit number. -/
def encode (n : UInt64) : Bytes := encodeNat n.toNat

/-- What reading a varint comes to. -/
inductive Outcome where
  | value (n : Nat)
  | cutShort
  | tooLong
deriving DecidableEq

/-- The outcome with one more group of seven bits below it. -/
def Outcome.below (b : UInt8) : Outcome → Outcome
  | .value n => .value (b.toNat % 128 + 128 * n)
  | .cutShort => .cutShort
  | .tooLong => .tooLong

/-- Reads at most `limit` bytes; also the bytes after those that it took. -/
def read : Nat → Bytes → Outcome × Bytes
  | 0, bytes => (.tooLong, bytes)
  | _ + 1, [] => (.cutShort, [])
  | limit + 1, b :: rest =>
    if b.toNat < 128 then (.value b.toNat, rest)
    else ((read limit rest).1.below b, (read limit rest).2)

theorem read_length_le (limit : Nat) (bytes : Bytes) :
    (read limit bytes).2.length ≤ bytes.length := by
  induction limit generalizing bytes with
  | zero => simp [read]
  | succ limit ih =>
    cases bytes with
    | nil => simp [read]
    | cons b rest =>
      have := ih rest
      unfold read
      split <;> simp only [List.length_cons] <;> omega

theorem read_length_lt {limit : Nat} {bytes after : Bytes} {n : Nat}
    (h : read limit bytes = (.value n, after)) : after.length < bytes.length := by
  cases limit with
  | zero => simp [read] at h
  | succ limit =>
    cases bytes with
    | nil => simp [read] at h
    | cons b rest =>
      have := read_length_le limit rest
      unfold read at h
      split at h
      · simp only [Prod.mk.injEq] at h
        simp [h.2]
      · simp only [Prod.mk.injEq] at h
        simp only [← h.2, List.length_cons]
        omega

end TrackerTraffic.Varint
