import TrackerTraffic.Proofs.VarintWords
import TrackerTraffic.Wire.Buffer

/-!
# Reading inside the buffer

The readers over a buffer and a position come to what the cursor over the rest comes to.  None of
them moves back or past the end, so nothing is subtracted from too little and no slice reaches out
of the buffer, however they are called.
-/

namespace TrackerTraffic.Wire

open Varint

/-! ### Agreement -/

/-- The cursor at the position of the buffer. -/
def Buffer.cursor (b : Buffer) : Cursor := ⟨b.position, b.bytes.drop b.position⟩

/-- The reading is no fault, comes to what the cursor comes to, and stays in the buffer. -/
def Agrees {α : Type} (b : Buffer) (reading : Option (Except WireError α × Buffer))
    (result : Except WireError α × Cursor) : Prop :=
  ∃ answer after, reading = some (answer, after) ∧ result = (answer, after.cursor) ∧
    after.bytes = b.bytes ∧ b.position ≤ after.position ∧ after.position ≤ b.bytes.length

theorem Agrees.map {α β : Type} {b : Buffer} {reading : Option (Except WireError α × Buffer)}
    {result : Except WireError α × Cursor} (h : Agrees b reading result) (f : α → β) :
    Agrees b (reading.map (·.map (·.map f) id)) (result.map (·.map f) id) := by
  obtain ⟨answer, after, rfl, rfl, hbytes, hfrom, hto⟩ := h
  exact ⟨answer.map f, after, rfl, rfl, hbytes, hfrom, hto⟩

theorem Agrees.stay {α : Type} {b : Buffer} (h : b.position ≤ b.bytes.length)
    (answer : Except WireError α) : Agrees b (some (answer, b)) (answer, b.cursor) :=
  ⟨answer, b, rfl, rfl, rfl, Nat.le_refl _, h⟩

namespace Buffer

theorem remaining?_eq {b : Buffer} (h : b.position ≤ b.bytes.length) :
    b.remaining? = some (b.bytes.length - b.position) := if_pos h

theorem exhausted_eq {α : Type} {b : Buffer} (h : b.position ≤ b.bytes.length) (needed : Nat) :
    b.exhausted needed = some (.error (α := α)
      (.exhausted b.position needed (b.bytes.length - b.position)), b) := by
  rw [exhausted, remaining?_eq h]
  rfl

theorem available_cursor (b : Buffer) : b.cursor.available = b.bytes.length - b.position := by
  rw [cursor, Cursor.available, List.length_drop]

/-! ### Varints -/

theorem high_bit_iff (b : UInt8) : b &&& 0x80 = 0 ↔ b.toNat < 128 := by
  have hlt := b.toNat_lt
  have hand : (b &&& 0x80).toNat = 2 ^ 7 * (b.toNat / 2 ^ 7 % 2) := by
    rw [UInt8.toNat_and, Nat.mul_comm, ← Nat.toNat_testBit]
    exact Nat.and_two_pow b.toNat 7
  rw [← UInt8.toNat_inj, hand]
  show 2 ^ 7 * (b.toNat / 2 ^ 7 % 2) = 0 ↔ _
  omega

/-- One byte with the high bit joins the bytes that were taken. -/
theorem varintFrom_cons (start left : Nat) (taken before : Bytes) {byte : UInt8}
    (hbyte : 128 ≤ byte.toNat) (rest : Bytes) :
    varintFrom start (left + 1) taken.length (joined taken)
        ⟨before ++ byte :: rest, before.length⟩ =
      varintFrom start left (taken ++ [byte]).length (joined (taken ++ [byte]))
        ⟨before ++ [byte] ++ rest, (before ++ [byte]).length⟩ := by
  have hget : (before ++ byte :: rest)[before.length]? = some byte := by simp
  have hbit : ¬ byte &&& 0x80 = 0 := by
    rw [high_bit_iff]
    omega
  rw [varintFrom, hget]
  simp only [if_neg hbit, joined_concat, List.length_append, List.length_singleton, advance,
    List.append_assoc, List.singleton_append]

theorem varintFrom_continued (start left : Nat) (taken before : Bytes) {front : Bytes}
    (hfront : Continued front) (rest : Bytes) :
    varintFrom start (front.length + left) taken.length (joined taken)
        ⟨before ++ (front ++ rest), before.length⟩ =
      varintFrom start left (taken ++ front).length (joined (taken ++ front))
        ⟨before ++ front ++ rest, (before ++ front).length⟩ := by
  induction front generalizing taken before with
  | nil => simp
  | cons byte front ih =>
    have hmore := ih (taken ++ [byte]) (before ++ [byte]) hfront.tail
    have hcount : (byte :: front).length + left = front.length + left + 1 := by
      rw [List.length_cons]
      omega
    rw [hcount, List.cons_append, varintFrom_cons start _ taken before hfront.head]
    simpa only [List.append_assoc, List.singleton_append] using hmore

theorem varintFrom_last (start left : Nat) (taken before : Bytes) {last : UInt8}
    (hlast : last.toNat < 128) (rest : Bytes) :
    varintFrom start (left + 1) taken.length (joined taken)
        ⟨before ++ last :: rest, before.length⟩ =
      some (.ok (joined (taken ++ [last])),
        ⟨before ++ [last] ++ rest, (before ++ [last]).length⟩) := by
  have hget : (before ++ last :: rest)[before.length]? = some last := by simp
  rw [varintFrom, hget]
  simp only [if_pos ((high_bit_iff last).2 hlast), joined_concat, advance, List.length_append,
    List.length_singleton, List.append_assoc, List.singleton_append]

theorem varintFrom_end (start left groups : Nat) (word : UInt64) (before : Bytes) :
    varintFrom start (left + 1) groups word ⟨before, before.length⟩ =
      some (.error (.exhausted before.length 1 0), ⟨before, before.length⟩) := by
  have hget : before[before.length]? = none := by simp
  have hend := exhausted_eq (α := UInt64) (b := ⟨before, before.length⟩) (Nat.le_refl _) 1
  rw [Nat.sub_self] at hend
  rw [varintFrom, hget]
  exact hend

theorem exists_before {b : Buffer} (h : b.position ≤ b.bytes.length) :
    ∃ before rest, b = ⟨before ++ rest, before.length⟩ := by
  refine ⟨b.bytes.take b.position, b.bytes.drop b.position, ?_⟩
  rw [List.take_append_drop, List.length_take_of_le h]

theorem cursor_append (before rest : Bytes) :
    cursor ⟨before ++ rest, before.length⟩ = ⟨before.length, rest⟩ := by
  rw [cursor, List.drop_left]

theorem agrees_append {α : Type} (before taken rest : Bytes) (answer : Except WireError α) :
    Agrees ⟨before ++ (taken ++ rest), before.length⟩
      (some (answer, ⟨before ++ taken ++ rest, (before ++ taken).length⟩))
      (answer, ⟨before.length + taken.length, rest⟩) := by
  refine ⟨answer, _, rfl, ?_, List.append_assoc _ _ _, ?_, ?_⟩
  · rw [cursor_append, List.length_append]
  · show before.length ≤ (before ++ taken).length
    simp
  · show (before ++ taken).length ≤ (before ++ (taken ++ rest)).length
    simp only [List.length_append]
    omega

theorem varint_continued {more : Nat} (before : Bytes) {front : Bytes} (hfront : Continued front)
    (hlimit : front.length + more = 10) (rest : Bytes) :
    varint ⟨before ++ (front ++ rest), before.length⟩ =
      varintFrom before.length more front.length (joined front)
        ⟨before ++ front ++ rest, (before ++ front).length⟩ := by
  have hread := varintFrom_continued before.length more [] before hfront rest
  rwa [hlimit] at hread

theorem varint_agrees {b : Buffer} (h : b.position ≤ b.bytes.length) :
    Agrees b b.varint b.cursor.varint := by
  obtain ⟨before, rest, rfl⟩ := exists_before h
  rw [cursor_append]
  cases scan 10 rest with
  | stops front last left hfront hlast hlimit =>
    obtain ⟨more, hmore⟩ : ∃ more, front.length + (more + 1) = 10 := ⟨9 - front.length, by omega⟩
    have hread := varint_continued before hfront hmore (last :: left)
    rw [varintFrom_last _ _ _ _ hlast] at hread
    have hsum : UInt64.ofNat (groupSum (front ++ [last])) = joined (front ++ [last]) := by
      apply UInt64.toNat_inj.1
      rw [joined_toNat (by simpa using hlimit), UInt64.toNat_ofNat']
    have hagrees := agrees_append before (front ++ [last]) left
      (.ok (joined (front ++ [last])) : Except WireError UInt64)
    rw [hread, Cursor.varint_stops _ left hfront hlast hlimit, hsum]
    simpa only [List.append_assoc, List.length_append, List.singleton_append,
      List.length_singleton] using hagrees
  | ends hrest hlimit =>
    obtain ⟨more, hmore⟩ : ∃ more, rest.length + (more + 1) = 10 := ⟨9 - rest.length, by omega⟩
    have hread := varint_continued before hrest hmore []
    rw [List.append_nil, List.append_nil, varintFrom_end] at hread
    have hagrees := agrees_append before rest []
      (.error (.exhausted (before ++ rest).length 1 0) : Except WireError UInt64)
    rw [hread, Cursor.varint_ends _ hrest hlimit]
    simpa only [List.append_nil, List.length_append] using hagrees
  | runsOn front left hfront hlimit =>
    have hnone : front.length + 0 = 10 := hlimit
    have hread := varint_continued before hfront hnone left
    rw [varintFrom] at hread
    have hagrees := agrees_append before front left
      (.error (.varintOverflow before.length) : Except WireError UInt64)
    rw [hread, Cursor.varint_runsOn _ left hfront hlimit]
    rwa [hlimit] at hagrees

/-! ### Slices and words of fixed width -/

theorem cut?_append (before content rest : Bytes) :
    cut? before.length (before.length + content.length) (before ++ (content ++ rest)) =
      some content := by
  have hrange : before.length ≤ before.length + content.length ∧
      before.length + content.length ≤ (before ++ (content ++ rest)).length := by
    simp only [List.length_append]
    omega
  rw [cut?, if_pos hrange, ← List.append_assoc, ← List.length_append, List.take_left,
    List.drop_left]

theorem slice_agrees {b : Buffer} (h : b.position ≤ b.bytes.length) (count : Nat) :
    Agrees b (b.slice count) (b.cursor.slice count) := by
  by_cases hlt : b.bytes.length - b.position < count
  · have hstay := Agrees.stay h (.error (.exhausted b.position count (b.bytes.length - b.position))
      : Except WireError Bytes)
    have hshort : b.cursor.available < count := by rwa [available_cursor]
    have hread : b.slice count = b.exhausted count := by
      simp only [slice, remaining?_eq h, Option.bind_eq_bind, Option.bind_some, if_pos hlt]
    rw [hread, exhausted_eq h, Cursor.slice, if_pos hshort, available_cursor]
    exact hstay
  · obtain ⟨before, behind, rfl⟩ := exists_before h
    have henough : count ≤ behind.length := by
      simp only [List.length_append] at hlt
      omega
    obtain ⟨content, rest, rfl, rfl⟩ : ∃ content rest : Bytes,
        behind = content ++ rest ∧ content.length = count :=
      ⟨behind.take count, behind.drop count, (List.take_append_drop _ _).symm,
        List.length_take_of_le henough⟩
    have hread : slice content.length ⟨before ++ (content ++ rest), before.length⟩ =
        some (.ok content, ⟨before ++ content ++ rest, (before ++ content).length⟩) := by
      rw [slice, remaining?_eq h, Option.bind_eq_bind, Option.bind_some, if_neg hlt]
      simp only [cut?_append, advance, Option.bind_eq_bind, Option.bind_some, Option.pure_def,
        List.append_assoc, List.length_append]
    rw [hread, cursor_append, Cursor.slice_append]
    exact agrees_append before content rest _

theorem fixed_agrees {α : Type} {b : Buffer} (h : b.position ≤ b.bytes.length) (count : Nat)
    (word : Nat → α) :
    Agrees b (b.fixed count word)
      (match b.cursor.slice count with
        | (.ok bytes, after) => (.ok (word (Bytes.littleEndian bytes)), after)
        | (.error e, after) => (.error e, after)) := by
  obtain ⟨answer, after, hread, hslice, hbytes, hfrom, hto⟩ := slice_agrees h count
  rw [hslice]
  cases answer with
  | error e =>
    refine ⟨.error e, after, ?_, rfl, hbytes, hfrom, hto⟩
    simp only [fixed, hread, Option.bind_eq_bind, Option.bind_some, Option.pure_def]
  | ok content =>
    have hcount := Cursor.slice_count hslice
    refine ⟨.ok (word (Bytes.littleEndian content)), after, ?_, rfl, hbytes, hfrom, hto⟩
    simp only [fixed, hread, Option.bind_eq_bind, Option.bind_some, if_pos hcount, Option.pure_def]

/-! ### Tags -/

theorem number_toNat (word : UInt64) : (word >>> 3).toNat = word.toNat / 8 := by
  rw [UInt64.toNat_shiftRight]
  exact Nat.shiftRight_eq_div_pow word.toNat 3

theorem bits_toNat (word : UInt64) : (word &&& 7).toNat = word.toNat % 8 := by
  rw [UInt64.toNat_and]
  exact Nat.and_two_pow_sub_one_eq_mod word.toNat 3

theorem number_eq_zero_iff (word : UInt64) : word >>> 3 = 0 ↔ word.toNat / 8 = 0 := by
  rw [← UInt64.toNat_inj, number_toNat]
  rfl

theorem tag_agrees {b : Buffer} (h : b.position ≤ b.bytes.length) :
    Agrees b b.tag b.cursor.tag := by
  obtain ⟨answer, after, hread, hvarint, hbytes, hfrom, hto⟩ := varint_agrees h
  cases answer with
  | error e =>
    refine ⟨.error e, after, ?_, ?_, hbytes, hfrom, hto⟩
    · simp only [tag, hread, Option.bind_eq_bind, Option.bind_some, Option.pure_def]
    · rw [Cursor.tag, hvarint]
  | ok word =>
    simp only [tag, Cursor.tag, hread, hvarint, Option.bind_eq_bind, Option.bind_some,
      Option.pure_def, number_eq_zero_iff, number_toNat, bits_toNat]
    by_cases hzero : word.toNat / 8 = 0
    · simp only [if_pos hzero]
      exact ⟨_, after, rfl, rfl, hbytes, hfrom, hto⟩
    · simp only [if_neg hzero]
      cases WireType.ofBits? (word.toNat % 8) with
      | none => exact ⟨_, after, rfl, rfl, hbytes, hfrom, hto⟩
      | some wireType => exact ⟨_, after, rfl, rfl, hbytes, hfrom, hto⟩

end Buffer

/-! ### Calls -/

theorem Buffer.call_agrees {b : Buffer} (h : b.position ≤ b.bytes.length) (call : Call) :
    Agrees b (b.call call) (b.cursor.call call) := by
  cases call with
  | varint => exact (varint_agrees h).map _
  | fixed32 => exact (fixed_agrees h 4 UInt32.ofNat).map _
  | fixed64 => exact (fixed_agrees h 8 UInt64.ofNat).map _
  | slice count => exact (slice_agrees h count).map _
  | tag => exact (tag_agrees h).map _

/-- However a reader is called, it answers as the cursor does and stays in its buffer. -/
theorem Buffer.run_agrees (calls : List Call) {b : Buffer} (h : b.position ≤ b.bytes.length) :
    ∃ answers after, b.run calls = some (answers, after) ∧
      b.cursor.run calls = (answers, after.cursor) ∧ after.bytes = b.bytes ∧
      b.position ≤ after.position ∧ after.position ≤ b.bytes.length := by
  induction calls generalizing b with
  | nil => exact ⟨[], b, rfl, rfl, rfl, Nat.le_refl _, h⟩
  | cons call calls ih =>
    obtain ⟨answer, next, hcall, hcursor, hbytes, hfrom, hto⟩ := call_agrees h call
    rw [← hbytes] at hto
    obtain ⟨answers, after, hrun, hcursors, hafter, hforth, hend⟩ := ih hto
    refine ⟨answer :: answers, after, ?_, ?_, hafter.trans hbytes, hfrom.trans hforth, ?_⟩
    · simp only [run, hcall, hrun, Option.bind_eq_bind, Option.bind_some, Option.pure_def]
    · simp only [Cursor.run, hcursor, hcursors]
    · rwa [← hbytes]

end TrackerTraffic.Wire
