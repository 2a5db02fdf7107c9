import TrackerTraffic.Proofs.WireRecord

/-!
# Words read from varints

A varint ends at its first byte below 128, which must be among the next ten bytes.  The word that is
read is the sum of its groups modulo 2^64: ten groups hold 70 bits, and of the last one a single bit
is kept.  The same word comes of shifting the groups to their places and joining them bit by bit.
-/

namespace TrackerTraffic

namespace Varint

/-! ### Joining bit by bit -/

/-- The word with every group or-ed in, shifted to its place. -/
def joined (bytes : Bytes) : UInt64 :=
  bytes.zipIdx.foldl
    (fun word entry => word ||| (entry.1 &&& 0x7f).toUInt64 <<< UInt64.ofNat (7 * entry.2)) 0

theorem joined_concat (front : Bytes) (last : UInt8) :
    joined (front ++ [last]) =
      joined front ||| (last &&& 0x7f).toUInt64 <<< UInt64.ofNat (7 * front.length) := by
  simp [joined, List.zipIdx_append]

theorem low_bits (b : UInt8) : (b &&& 0x7f).toUInt64.toNat = b.toNat % 128 := by
  rw [UInt8.toNat_toUInt64, UInt8.toNat_and]
  exact Nat.and_two_pow_sub_one_eq_mod b.toNat 7

/-- Above the bits of a word there is nothing to carry, so joining a group to it adds the group. -/
theorem toNat_or_shift {word group : UInt64} {places : Nat} (hplaces : places < 64)
    (hword : word.toNat < 2 ^ places) :
    (word ||| group <<< UInt64.ofNat places).toNat =
      (word.toNat + 2 ^ places * group.toNat) % 2 ^ 64 := by
  have hsplit : 2 ^ 64 = 2 ^ places * 2 ^ (64 - places) := by
    rw [← Nat.pow_add]
    congr 1
    omega
  have hamount : (UInt64.ofNat places).toNat % 64 = places := by
    rw [UInt64.toNat_ofNat']
    omega
  have hshift : group.toNat * 2 ^ places % 2 ^ 64 =
      2 ^ places * (group.toNat % 2 ^ (64 - places)) := by
    rw [hsplit, Nat.mul_comm group.toNat, Nat.mul_mod_mul_left]
  have hlow : (word.toNat + 2 ^ places * group.toNat) % 2 ^ places = word.toNat := by
    rw [Nat.add_mul_mod_self_left, Nat.mod_eq_of_lt hword]
  have hhigh : (word.toNat + 2 ^ places * group.toNat) / 2 ^ places = group.toNat := by
    rw [Nat.add_mul_div_left _ _ (Nat.two_pow_pos places), Nat.div_eq_of_lt hword, Nat.zero_add]
  calc (word ||| group <<< UInt64.ofNat places).toNat
      = word.toNat ||| 2 ^ places * (group.toNat % 2 ^ (64 - places)) := by
        rw [UInt64.toNat_or, UInt64.toNat_shiftLeft, hamount, Nat.shiftLeft_eq, hshift]
    _ = 2 ^ places * (group.toNat % 2 ^ (64 - places)) + word.toNat := by
        rw [Nat.or_comm, Nat.two_pow_add_eq_or_of_lt hword]
    _ = (word.toNat + 2 ^ places * group.toNat) % 2 ^ 64 := by
        rw [hsplit, Nat.mod_mul, hlow, hhigh, Nat.add_comm]

theorem joined_toNat {bytes : Bytes} (h : bytes.length ≤ 10) :
    (joined bytes).toNat = groupSum bytes % 2 ^ 64 := by
  -- from the last group: those in front of it take at most 63 bits
  induction bytes using List.reverseRecOn with
  | nil => rfl
  | append_singleton front last ih =>
    rw [List.length_append, List.length_singleton] at h
    have hsum := groupSum_lt front
    have hplaces : 2 ^ (7 * front.length) ≤ 2 ^ 63 := Nat.pow_le_pow_right (by omega) (by omega)
    have hfront : (joined front).toNat = groupSum front := by
      rw [ih (by omega)]
      exact Nat.mod_eq_of_lt (by omega)
    rw [joined_concat, toNat_or_shift (by omega) (by omega), hfront, low_bits, groupSum_concat]

end Varint

namespace Wire

open Varint

/-! ### Cursors -/

namespace Cursor

theorem varint_stops (offset : Nat) {front : Bytes} {last : UInt8} (left : Bytes)
    (hfront : Continued front) (hlast : last.toNat < 128) (hlimit : front.length < 10) :
    varint ⟨offset, front ++ last :: left⟩ =
      (.ok (UInt64.ofNat (groupSum (front ++ [last]))), ⟨offset + (front.length + 1), left⟩) := by
  have hmove := moveTo_append offset (front ++ [last]) left
  rw [List.append_assoc, List.singleton_append, List.length_append, List.length_singleton] at hmove
  simp only [varint, read_stops left hfront hlast hlimit, hmove]

theorem varint_ends (offset : Nat) {bytes : Bytes} (hbytes : Continued bytes)
    (hlimit : bytes.length < 10) :
    varint ⟨offset, bytes⟩ =
      (.error (.exhausted (offset + bytes.length) 1 0), ⟨offset + bytes.length, []⟩) := by
  simp [varint, read_ends hbytes hlimit, moveTo]

theorem varint_runsOn (offset : Nat) {front : Bytes} (left : Bytes) (hfront : Continued front)
    (hlimit : front.length = 10) :
    varint ⟨offset, front ++ left⟩ = (.error (.varintOverflow offset), ⟨offset + 10, left⟩) := by
  have hread := read_runsOn left hfront
  rw [hlimit] at hread
  simp only [varint, hread, moveTo_append, hlimit]

end Cursor

/-- One of the next ten bytes is below 128. -/
def Terminates (bytes : Bytes) : Prop := ∃ b ∈ bytes.take 10, b.toNat < 128

/-- The next ten bytes are there, and each has the high bit set. -/
def RunsOn (bytes : Bytes) : Prop := 10 ≤ bytes.length ∧ Continued (bytes.take 10)

theorem terminates_append {front : Bytes} {last : UInt8} (left : Bytes) (hlast : last.toNat < 128)
    (hlimit : front.length < 10) : Terminates (front ++ last :: left) := by
  have htake : (front ++ last :: left).take 10 =
      front ++ (last :: left).take (10 - front.length) := by
    rw [List.take_append, List.take_of_length_le (by omega)]
  obtain ⟨more, hmore⟩ : ∃ more, 10 - front.length = more + 1 := ⟨9 - front.length, by omega⟩
  refine ⟨last, ?_, hlast⟩
  rw [htake, hmore, List.take_succ_cons]
  simp

theorem not_terminates_of_continued {bytes : Bytes} (h : Continued (bytes.take 10)) :
    ¬ Terminates bytes := by
  intro ⟨b, hb, hlow⟩
  have hbit := h b hb
  omega

theorem runsOn_append {front : Bytes} (left : Bytes) (hfront : Continued front)
    (hlimit : front.length = 10) : RunsOn (front ++ left) := by
  refine ⟨?_, ?_⟩
  · rw [List.length_append]
    omega
  · rwa [List.take_left' hlimit]

namespace Cursor

theorem varint_ok_iff (c : Cursor) :
    (∃ n after, c.varint = (.ok n, after)) ↔ Terminates c.rest := by
  obtain ⟨offset, bytes⟩ := c
  cases scan 10 bytes with
  | stops front last left hfront hlast hlimit =>
    have hread := varint_stops offset left hfront hlast hlimit
    exact ⟨fun _ => terminates_append left hlast hlimit, fun _ => ⟨_, _, hread⟩⟩
  | ends hbytes hlimit =>
    have hread := varint_ends offset hbytes hlimit
    have htake : bytes.take 10 = bytes := List.take_of_length_le (by omega)
    have hnot : ¬ Terminates bytes := not_terminates_of_continued (by rwa [htake])
    simp [hread, hnot]
  | runsOn front left hfront hlimit =>
    have hread := varint_runsOn offset left hfront hlimit
    have hnot := not_terminates_of_continued (runsOn_append left hfront hlimit).2
    simp [hread, hnot]

theorem varint_overflow_iff (c : Cursor) (offset : Nat) :
    c.varint.1 = .error (.varintOverflow offset) ↔ offset = c.offset ∧ RunsOn c.rest := by
  obtain ⟨start, bytes⟩ := c
  cases scan 10 bytes with
  | stops front last left hfront hlast hlimit =>
    have hread := varint_stops start left hfront hlast hlimit
    have hnot : ¬ RunsOn (front ++ last :: left) := fun hruns =>
      not_terminates_of_continued hruns.2 (terminates_append left hlast hlimit)
    simp [hread, hnot]
  | ends hbytes hlimit =>
    have hread := varint_ends start hbytes hlimit
    have hnot : ¬ RunsOn bytes := fun hruns => absurd hruns.1 (by omega)
    simp [hread, hnot]
  | runsOn front left hfront hlimit =>
    have hread := varint_runsOn start left hfront hlimit
    have hruns := runsOn_append left hfront hlimit
    simp [hread, hruns, eq_comm]

/-- The bytes that a value is read from, and what is made of them. -/
theorem groups_of_varint {c after : Cursor} {n : UInt64} (h : c.varint = (.ok n, after)) :
    ∃ front last, c.rest = front ++ last :: after.rest ∧ Continued front ∧ last.toNat < 128 ∧
      after.offset = c.offset + (front.length + 1) ∧
      n.toNat = groupSum (front ++ [last]) % 2 ^ 64 ∧ n = joined (front ++ [last]) := by
  obtain ⟨offset, bytes⟩ := c
  cases scan 10 bytes with
  | stops front last left hfront hlast hlimit =>
    rw [varint_stops offset left hfront hlast hlimit] at h
    simp only [Prod.mk.injEq, Except.ok.injEq] at h
    obtain ⟨hn, hafter⟩ := h
    subst hafter
    have hsum : n.toNat = groupSum (front ++ [last]) % 2 ^ 64 := by
      rw [← hn, UInt64.toNat_ofNat']
    have hlength : (front ++ [last]).length ≤ 10 := by simpa using hlimit
    refine ⟨front, last, rfl, hfront, hlast, rfl, hsum, ?_⟩
    apply UInt64.toNat_inj.1
    rw [hsum, joined_toNat hlength]
  | ends hbytes hlimit => simp [varint_ends offset hbytes hlimit] at h
  | runsOn front left hfront hlimit => simp [varint_runsOn offset left hfront hlimit] at h

/-- Reading comes to a value, or to one of two errors. -/
theorem varint_exhausted_iff (c : Cursor) :
    (∃ offset needed available, c.varint.1 = .error (.exhausted offset needed available)) ↔
      ¬ Terminates c.rest ∧ ¬ RunsOn c.rest := by
  rw [← varint_ok_iff]
  have hoverflow := varint_overflow_iff c c.offset
  obtain ⟨offset, bytes⟩ := c
  cases scan 10 bytes with
  | stops front last left hfront hlast hlimit => simp [varint_stops offset left hfront hlast hlimit]
  | ends hbytes hlimit =>
    rw [varint_ends offset hbytes hlimit] at hoverflow ⊢
    simpa using hoverflow
  | runsOn front left hfront hlimit =>
    simp [varint_runsOn offset left hfront hlimit, runsOn_append left hfront hlimit]

end Cursor

/--
A varint is read exactly if one of the next ten bytes ends it; it takes the bytes up to the first
such one and comes to the sum of their groups modulo 2^64, which is the word that joins them bit by
bit.  Ten bytes that do not end it are too many, and otherwise the bytes run out.  A written number
has one to ten bytes, reads back in front of anything, and is not read from fewer bytes.
-/
theorem varint_exact :
    (∀ c : Cursor,
      ((∃ n after, c.varint = (.ok n, after)) ↔ Terminates c.rest) ∧
      (∀ n after, c.varint = (.ok n, after) →
        ∃ front last, c.rest = front ++ last :: after.rest ∧ Continued front ∧ last.toNat < 128 ∧
          after.offset = c.offset + (front.length + 1) ∧
          n.toNat = groupSum (front ++ [last]) % 2 ^ 64 ∧ n = joined (front ++ [last])) ∧
      (∀ offset, c.varint.1 = .error (.varintOverflow offset) ↔
        offset = c.offset ∧ RunsOn c.rest) ∧
      ((∃ offset needed available, c.varint.1 = .error (.exhausted offset needed available)) ↔
        ¬ Terminates c.rest ∧ ¬ RunsOn c.rest)) ∧
    ∀ n : UInt64,
      (1 ≤ (encode n).length ∧ (encode n).length ≤ 10) ∧
      (∀ offset rest, Cursor.varint ⟨offset, encode n ++ rest⟩ =
        (.ok n, ⟨offset + (encode n).length, rest⟩)) ∧
      ∀ c after, Cursor.varint c = (.ok n, after) →
        (encode n).length + after.rest.length ≤ c.rest.length := by
  refine ⟨?_, ?_⟩
  · intro c
    exact ⟨c.varint_ok_iff, fun n after => Cursor.groups_of_varint, c.varint_overflow_iff,
      c.varint_exhausted_iff⟩
  · intro n
    have hpos := encodeNat_length_pos n.toNat
    have hword := n.toNat_lt
    have hten : (encodeNat n.toNat).length ≤ 10 := encodeNat_length_le (by omega) (by omega)
    exact ⟨⟨hpos, hten⟩, Cursor.varint_encode n, fun c after => Cursor.varint_size⟩

/-- Ten groups with 65 bits: the last one keeps its lowest bit. -/
theorem varint_exact_surplus :
    let bytes : Bytes := [0x80, 0x80, 0x80, 0x80, 0x80, 0x80, 0x80, 0x80, 0x80, 0x03]
    Cursor.varint ⟨4, bytes ++ [0x01]⟩ = (.ok (2 ^ 63), ⟨14, [0x01]⟩) ∧
      (∃ front last, bytes = front ++ [last] ∧ (2 ^ 63 : UInt64) = joined (front ++ [last])) ∧
      (encode (2 ^ 63)).length + 1 ≤ (bytes ++ [0x01]).length := by
  intro bytes
  have hread : Cursor.varint ⟨4, bytes ++ [0x01]⟩ = (.ok (2 ^ 63), ⟨14, [0x01]⟩) := by cbv
  obtain ⟨hcursor, hwritten⟩ := varint_exact
  obtain ⟨front, last, hbytes, -, -, -, -, hjoined⟩ := (hcursor ⟨4, bytes ++ [0x01]⟩).2.1 _ _ hread
  have hfront : bytes = front ++ [last] := by
    have hsplit : bytes ++ [0x01] = (front ++ [last]) ++ [0x01] := by simpa using hbytes
    exact List.append_cancel_right hsplit
  exact ⟨hread, ⟨front, last, hfront, hjoined⟩, (hwritten _).2.2 _ _ hread⟩

end Wire

end TrackerTraffic
