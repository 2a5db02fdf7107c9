import Mathlib
import TrackerTraffic.Wire.Varint

/-!
# Writing and reading varints

A written number reads back with whatever stands behind it, and no other bytes
for a number are fewer than the written ones.  A reader stops at the first byte
without the high bit; what it has taken is the sum of the groups of seven bits,
each at its place, and with what is left it makes up the bytes.
-/

namespace TrackerTraffic.Varint

/-! ### Written numbers -/

theorem encodeNat_of_lt {n : Nat} (h : n < 128) : encodeNat n = [UInt8.ofNat n] := by
  rw [encodeNat, if_pos h]

theorem encodeNat_of_le {n : Nat} (h : 128 ≤ n) :
    encodeNat n = UInt8.ofNat (128 + n % 128) :: encodeNat (n / 128) := by
  rw [encodeNat, if_neg (by omega)]

theorem encodeNat_length_pos (n : Nat) : 0 < (encodeNat n).length := by
  rw [encodeNat]
  split <;> simp

theorem div_lt_pow {n count : Nat} (hn : 128 ≤ n) (h : n < 128 ^ (count + 1)) :
    0 < count ∧ n / 128 < 128 ^ count := by
  rw [Nat.pow_succ] at h
  refine ⟨?_, by omega⟩
  cases count with
  | zero =>
    rw [Nat.pow_zero] at h
    omega
  | succ count => omega

theorem encodeNat_length_le {n count : Nat} (hpos : 0 < count) (h : n < 128 ^ count) :
    (encodeNat n).length ≤ count := by
  induction count generalizing n with
  | zero => omega
  | succ count ih =>
    by_cases hn : n < 128
    · rw [encodeNat_of_lt hn]
      simp
    · obtain ⟨hcount, hdiv⟩ := div_lt_pow (by omega) h
      have := ih hcount hdiv
      rw [encodeNat_of_le (by omega), List.length_cons]
      omega

theorem encodeNat_length_mono {m n : Nat} (h : m ≤ n) :
    (encodeNat m).length ≤ (encodeNat n).length := by
  induction n using Nat.strongRecOn generalizing m with
  | ind n ih =>
    by_cases hm : m < 128
    · have := encodeNat_length_pos n
      rw [encodeNat_of_lt hm, List.length_singleton]
      omega
    · have hdiv : m / 128 ≤ n / 128 := by omega
      have := ih (n / 128) (by omega) hdiv
      rw [encodeNat_of_le (by omega), encodeNat_of_le (n := n) (by omega)]
      simp only [List.length_cons]
      omega

/-! ### Groups -/

def groupSum (bytes : Bytes) : Nat :=
  ∑ i : Fin bytes.length, bytes[i].toNat % 128 * 2 ^ (7 * i.val)

theorem two_pow_next_group (count : Nat) : 2 ^ (7 * (count + 1)) = 128 * 2 ^ (7 * count) := by
  rw [Nat.mul_add, Nat.pow_add, Nat.mul_comm]

theorem groupSum_nil : groupSum [] = 0 := rfl

theorem groupSum_cons (b : UInt8) (rest : Bytes) :
    groupSum (b :: rest) = b.toNat % 128 + 128 * groupSum rest := by
  show ∑ i : Fin (rest.length + 1), (b :: rest)[i].toNat % 128 * 2 ^ (7 * i.val) = _
  rw [Fin.sum_univ_succ, groupSum, Finset.mul_sum]
  simp [two_pow_next_group, Nat.mul_left_comm]

theorem groupSum_concat (front : Bytes) (last : UInt8) :
    groupSum (front ++ [last]) = groupSum front + 2 ^ (7 * front.length) * (last.toNat % 128) := by
  induction front with
  | nil => simp [groupSum_cons, groupSum_nil]
  | cons b rest ih =>
    rw [List.cons_append, groupSum_cons, groupSum_cons, ih, List.length_cons,
      two_pow_next_group]
    ring

theorem groupSum_lt (bytes : Bytes) : groupSum bytes < 2 ^ (7 * bytes.length) := by
  induction bytes with
  | nil => simp [groupSum_nil]
  | cons b rest ih =>
    rw [groupSum_cons, List.length_cons, two_pow_next_group]
    omega

/-! ### Reading -/

theorem read_of_lt {limit : Nat} {b : UInt8} (h : b.toNat < 128) (rest : Bytes) :
    read (limit + 1) (b :: rest) = (.value b.toNat, rest) := by
  rw [read, if_pos h]

theorem read_of_le {limit : Nat} {b : UInt8} (h : 128 ≤ b.toNat) (rest : Bytes) :
    read (limit + 1) (b :: rest) = ((read limit rest).1.below b, (read limit rest).2) := by
  rw [read, if_neg (by omega)]

/-- A written number reads back, and what stands behind it is left. -/
theorem read_encodeNat {n limit : Nat} (hpos : 0 < limit) (h : n < 128 ^ limit) (rest : Bytes) :
    read limit (encodeNat n ++ rest) = (.value n, rest) := by
  induction limit generalizing n with
  | zero => omega
  | succ limit ih =>
    by_cases hn : n < 128
    · have hb : (UInt8.ofNat n).toNat = n := by
        rw [UInt8.toNat_ofNat']
        omega
      rw [encodeNat_of_lt hn, List.singleton_append, read_of_lt (by omega), hb]
    · obtain ⟨hlimit, hdiv⟩ := div_lt_pow (by omega) h
      have hb : (UInt8.ofNat (128 + n % 128)).toNat = 128 + n % 128 := by
        rw [UInt8.toNat_ofNat']
        omega
      have hvalue : (128 + n % 128) % 128 + 128 * (n / 128) = n := by omega
      rw [encodeNat_of_le (by omega), List.cons_append, read_of_le (by omega), ih hlimit hdiv]
      simp only [Outcome.below, hb, hvalue]

/-! ### Where reading stops -/

/-- Every byte has the high bit set. -/
def Continued (bytes : Bytes) : Prop := ∀ b ∈ bytes, 128 ≤ b.toNat

theorem Continued.cons {b : UInt8} {rest : Bytes} (hb : 128 ≤ b.toNat) (h : Continued rest) :
    Continued (b :: rest) :=
  List.forall_mem_cons.2 ⟨hb, h⟩

theorem Continued.head {b : UInt8} {rest : Bytes} (h : Continued (b :: rest)) : 128 ≤ b.toNat :=
  h b List.mem_cons_self

theorem Continued.tail {b : UInt8} {rest : Bytes} (h : Continued (b :: rest)) : Continued rest :=
  fun other hother => h other (List.mem_cons_of_mem b hother)

/-- What a reader of so many bytes finds: a byte without the high bit, the end, or neither. -/
inductive Scan (limit : Nat) : Bytes → Prop where
  | stops (front : Bytes) (last : UInt8) (left : Bytes) (hfront : Continued front)
      (hlast : last.toNat < 128) (hlimit : front.length < limit) :
      Scan limit (front ++ last :: left)
  | ends {bytes : Bytes} (hbytes : Continued bytes) (hlimit : bytes.length < limit) :
      Scan limit bytes
  | runsOn (front left : Bytes) (hfront : Continued front)
      (hlimit : front.length = limit) : Scan limit (front ++ left)

theorem scan (limit : Nat) (bytes : Bytes) : Scan limit bytes := by
  induction limit generalizing bytes with
  | zero => exact .runsOn [] bytes (List.forall_mem_nil _) rfl
  | succ limit ih =>
    cases bytes with
    | nil => exact .ends (List.forall_mem_nil _) (Nat.succ_pos limit)
    | cons b rest =>
      by_cases hb : b.toNat < 128
      · exact .stops [] b rest (List.forall_mem_nil _) hb (Nat.succ_pos limit)
      · have hbit : 128 ≤ b.toNat := by omega
        cases ih rest with
        | stops front last left hfront hlast hlimit =>
          exact .stops (b :: front) last left (.cons hbit hfront) hlast (Nat.succ_lt_succ hlimit)
        | ends hrest hlimit => exact .ends (.cons hbit hrest) (Nat.succ_lt_succ hlimit)
        | runsOn front left hfront hlimit =>
          exact .runsOn (b :: front) left (.cons hbit hfront) (congrArg Nat.succ hlimit)

theorem read_stops {limit : Nat} {front : Bytes} {last : UInt8} (left : Bytes)
    (hfront : Continued front) (hlast : last.toNat < 128) (hlimit : front.length < limit) :
    read limit (front ++ last :: left) = (.value (groupSum (front ++ [last])), left) := by
  induction limit generalizing front with
  | zero => exact absurd hlimit (Nat.not_lt_zero _)
  | succ limit ih =>
    cases front with
    | nil =>
      rw [List.nil_append, List.nil_append, read_of_lt hlast, groupSum_cons, groupSum_nil,
        Nat.mod_eq_of_lt hlast, Nat.mul_zero, Nat.add_zero]
    | cons b rest =>
      have hrest := ih hfront.tail (Nat.lt_of_succ_lt_succ hlimit)
      rw [List.cons_append, List.cons_append, read_of_le hfront.head, hrest, groupSum_cons]
      rfl

theorem read_ends {limit : Nat} {bytes : Bytes} (hbytes : Continued bytes)
    (hlimit : bytes.length < limit) : read limit bytes = (.cutShort, []) := by
  induction limit generalizing bytes with
  | zero => exact absurd hlimit (Nat.not_lt_zero _)
  | succ limit ih =>
    cases bytes with
    | nil => rfl
    | cons b rest =>
      rw [read_of_le hbytes.head, ih hbytes.tail (Nat.lt_of_succ_lt_succ hlimit)]
      rfl

theorem read_runsOn {front : Bytes} (left : Bytes) (hfront : Continued front) :
    read front.length (front ++ left) = (.tooLong, left) := by
  induction front with
  | nil => rfl
  | cons b rest ih =>
    rw [List.length_cons, List.cons_append, read_of_le hfront.head, ih hfront.tail]
    rfl

/-! ### What is taken -/

/-- The bytes that are taken read the same whatever stands behind them, as a number of at most seven
bits for each of them. -/
theorem exists_taken {limit n : Nat} {bytes after : Bytes}
    (h : read limit bytes = (.value n, after)) :
    ∃ taken, bytes = taken ++ after ∧ 0 < taken.length ∧ n < 128 ^ taken.length ∧
      ∀ more, read limit (taken ++ more) = (.value n, more) := by
  cases scan limit bytes with
  | stops front last left hfront hlast hlimit =>
    have hread := fun more => read_stops more hfront hlast hlimit
    have hlt := groupSum_lt (front ++ [last])
    rw [Nat.pow_mul] at hlt
    rw [hread] at h
    obtain ⟨rfl, rfl⟩ : groupSum (front ++ [last]) = n ∧ left = after := by simpa using h
    refine ⟨front ++ [last], by simp, by simp, hlt, ?_⟩
    intro more
    rw [List.append_assoc, List.singleton_append, hread]
  | ends hbytes hlimit => simp [read_ends hbytes hlimit] at h
  | runsOn front left hfront hlimit =>
    subst hlimit
    simp [read_runsOn left hfront] at h

/-- The shortest spelling: a number that was read is written in no more bytes than it took. -/
theorem encodeNat_length_le_of_read {limit n : Nat} {bytes after : Bytes}
    (h : read limit bytes = (.value n, after)) :
    (encodeNat n).length + after.length ≤ bytes.length := by
  obtain ⟨taken, happend, hpos, hlt, -⟩ := exists_taken h
  have := encodeNat_length_le hpos hlt
  rw [happend, List.length_append]
  omega

end TrackerTraffic.Varint
