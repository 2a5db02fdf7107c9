import TrackerTraffic.Proofs.Varint
import TrackerTraffic.Wire.Message

/-!
# Writing and reading records

A record that was written reads back with whatever stands behind it, from any
offset.  The converse is one of sizes: a record that was read is written in no
more bytes than it took, and what it holds is within the bounds of the format.
-/

namespace TrackerTraffic.Wire

/-! ### Words of fixed width -/

theorem littleEndian_length (count n : Nat) : (littleEndian count n).length = count := by
  induction count generalizing n with
  | zero => rfl
  | succ count ih => rw [littleEndian, List.length_cons, ih]

theorem littleEndian_littleEndian (count n : Nat) :
    Bytes.littleEndian (littleEndian count n) = n % 256 ^ count := by
  induction count generalizing n with
  | zero => simp [littleEndian, Bytes.littleEndian, Nat.mod_one]
  | succ count ih =>
    have hb : (UInt8.ofNat (n % 256)).toNat = n % 256 := by
      rw [UInt8.toNat_ofNat']
      omega
    rw [littleEndian, Bytes.littleEndian, ih, hb, Nat.pow_succ', Nat.mod_mul]

/-! ### Cursors -/

namespace Cursor

theorem moveTo_append (offset : Nat) (taken rest : Bytes) :
    moveTo ⟨offset, taken ++ rest⟩ rest = ⟨offset + taken.length, rest⟩ := by
  simp [moveTo]

theorem slice_append (offset : Nat) (content rest : Bytes) :
    slice content.length ⟨offset, content ++ rest⟩ =
      (.ok content, ⟨offset + content.length, rest⟩) := by
  have henough : ¬ available ⟨offset, content ++ rest⟩ < content.length := by
    simp only [available, List.length_append]
    omega
  rw [slice, if_neg henough]
  simp only [List.take_left', List.drop_left', moveTo_append]

theorem varint_encodeNat {n : Nat} (h : n < 2 ^ 64) (offset : Nat) (rest : Bytes) :
    varint ⟨offset, Varint.encodeNat n ++ rest⟩ =
      (.ok (UInt64.ofNat n), ⟨offset + (Varint.encodeNat n).length, rest⟩) := by
  have hread := Varint.read_encodeNat (by omega : 0 < 10) (by omega : n < 128 ^ 10) rest
  simp only [varint, hread, moveTo_append]

theorem varint_encode (n : UInt64) (offset : Nat) (rest : Bytes) :
    varint ⟨offset, Varint.encode n ++ rest⟩ =
      (.ok n, ⟨offset + (Varint.encode n).length, rest⟩) := by
  rw [Varint.encode, varint_encodeNat n.toNat_lt, UInt64.ofNat_toNat]

theorem fixed64_littleEndian (n : UInt64) (offset : Nat) (rest : Bytes) :
    fixed64 ⟨offset, littleEndian 8 n.toNat ++ rest⟩ = (.ok n, ⟨offset + 8, rest⟩) := by
  have hslice := slice_append offset (littleEndian 8 n.toNat) rest
  rw [littleEndian_length] at hslice
  have hword : n.toNat % 256 ^ 8 = n.toNat := Nat.mod_eq_of_lt n.toNat_lt
  simp only [fixed64, hslice, littleEndian_littleEndian, hword, UInt64.ofNat_toNat]

theorem fixed32_littleEndian (n : UInt32) (offset : Nat) (rest : Bytes) :
    fixed32 ⟨offset, littleEndian 4 n.toNat ++ rest⟩ = (.ok n, ⟨offset + 4, rest⟩) := by
  have hslice := slice_append offset (littleEndian 4 n.toNat) rest
  rw [littleEndian_length] at hslice
  have hword : n.toNat % 256 ^ 4 = n.toNat := Nat.mod_eq_of_lt n.toNat_lt
  simp only [fixed32, hslice, littleEndian_littleEndian, hword, UInt32.ofNat_toNat]

theorem varint_size {c after : Cursor} {n : UInt64} (h : c.varint = (.ok n, after)) :
    (Varint.encode n).length + after.rest.length ≤ c.rest.length := by
  unfold varint at h
  split at h
  · rename_i m left hread
    have hsize := Varint.encodeNat_length_le_of_read hread
    simp only [Prod.mk.injEq, Except.ok.injEq] at h
    -- of a sum with more than 64 bits the reader keeps a smaller number
    have hle : n.toNat ≤ m := by
      rw [← h.1, UInt64.toNat_ofNat']
      exact Nat.mod_le _ _
    have hmono := Varint.encodeNat_length_mono hle
    simp only [Varint.encode, ← h.2, moveTo]
    omega
  · simp at h
  · simp at h

theorem slice_count {count : Nat} {c after : Cursor} {bytes : Bytes}
    (h : c.slice count = (.ok bytes, after)) : bytes.length = count := by
  unfold slice at h
  split at h
  · simp at h
  · rename_i henough
    simp only [available] at henough
    simp only [Prod.mk.injEq, Except.ok.injEq] at h
    rw [← h.1, List.length_take]
    omega

theorem fixed64_size {c after : Cursor} {n : UInt64} (h : c.fixed64 = (.ok n, after)) :
    8 + after.rest.length = c.rest.length := by
  unfold fixed64 at h
  split at h
  · rename_i bytes left hslice
    have hcount := slice_count hslice
    have hlength := slice_length hslice
    simp only [Prod.mk.injEq, Except.ok.injEq] at h
    rw [← h.2]
    omega
  · simp at h

theorem fixed32_size {c after : Cursor} {n : UInt32} (h : c.fixed32 = (.ok n, after)) :
    4 + after.rest.length = c.rest.length := by
  unfold fixed32 at h
  split at h
  · rename_i bytes left hslice
    have hcount := slice_count hslice
    have hlength := slice_length hslice
    simp only [Prod.mk.injEq, Except.ok.injEq] at h
    rw [← h.2]
    omega
  · simp at h

end Cursor

/-! ### Tags -/

theorem WireType.ofBits?_bits (wireType : WireType) : ofBits? wireType.bits = some wireType := by
  cases wireType <;> rfl

theorem WireType.bits_of_ofBits? {n : Nat} {wireType : WireType} (h : ofBits? n = some wireType) :
    wireType.bits = n := by
  unfold ofBits? at h
  split at h <;> first | (simp only [Option.some.injEq] at h; subst h; rfl) | simp at h

theorem WireType.bits_lt (wireType : WireType) : wireType.bits < 8 := by
  cases wireType <;> decide

/-- A written tag reads back; its number fits behind the three bits of the type. -/
theorem Cursor.tag_encodeTag {number : Nat} (hpos : 1 ≤ number) (hlt : number < 2 ^ 61)
    (wireType : WireType) (offset : Nat) (rest : Bytes) :
    tag ⟨offset, encodeTag number wireType ++ rest⟩ =
      (.ok (number, wireType), ⟨offset + (encodeTag number wireType).length, rest⟩) := by
  have hbits := wireType.bits_lt
  have hword : number * 8 + wireType.bits < 2 ^ 64 := by omega
  have hvarint := varint_encodeNat hword offset rest
  have htoNat : (UInt64.ofNat (number * 8 + wireType.bits)).toNat = number * 8 + wireType.bits := by
    rw [UInt64.toNat_ofNat']
    omega
  have hnumber : (number * 8 + wireType.bits) / 8 = number := by omega
  have htype : (number * 8 + wireType.bits) % 8 = wireType.bits := by omega
  have hzero : ¬ number = 0 := by omega
  simp only [encodeTag, tag, hvarint, htoNat, hnumber, htype, if_neg hzero, WireType.ofBits?_bits]

/-- A tag that was read has a number of the format and is written in no more bytes than it took. -/
theorem Cursor.tag_size {c after : Cursor} {number : Nat} {wireType : WireType}
    (h : c.tag = (.ok (number, wireType), after)) :
    1 ≤ number ∧ number < 2 ^ 61 ∧
      (encodeTag number wireType).length + after.rest.length ≤ c.rest.length := by
  unfold tag at h
  split at h
  · simp at h
  · rename_i word left hvarint
    have hsize := varint_size hvarint
    have hword := word.toNat_lt
    split at h
    · simp at h
    · rename_i hzero
      split at h
      · rename_i found hbits
        simp only [Prod.mk.injEq, Except.ok.injEq] at h
        obtain ⟨⟨hnumber, htype⟩, hleft⟩ := h
        subst hnumber htype hleft
        have htag : word.toNat / 8 * 8 + found.bits = word.toNat := by
          rw [WireType.bits_of_ofBits? hbits]
          omega
        refine ⟨by omega, by omega, ?_⟩
        rw [encodeTag, htag]
        exact hsize
      · simp at h

/-! ### Values -/

def RawValue.wireType : RawValue → WireType
  | varint _ => .varint
  | fixed64 _ => .fixed64
  | fixed32 _ => .fixed32
  | slice _ => .lengthDelimited

def RawValue.encode : RawValue → Bytes
  | varint n => Varint.encode n
  | fixed64 n => littleEndian 8 n.toNat
  | fixed32 n => littleEndian 4 n.toNat
  | slice content => Varint.encodeNat content.length ++ content

/-- A written value reads back; the length of a slice must fit a word. -/
theorem readValue_encode (v : RawValue) (h : v.content.length < 2 ^ 64) (offset : Nat)
    (rest : Bytes) :
    readValue v.wireType ⟨offset, v.encode ++ rest⟩ =
      .ok (v, ⟨offset + v.encode.length, rest⟩) := by
  cases v with
  | varint n => simp only [RawValue.wireType, RawValue.encode, readValue, Cursor.varint_encode]
  | fixed64 n =>
    simp only [RawValue.wireType, RawValue.encode, readValue, Cursor.fixed64_littleEndian,
      littleEndian_length]
  | fixed32 n =>
    simp only [RawValue.wireType, RawValue.encode, readValue, Cursor.fixed32_littleEndian,
      littleEndian_length]
  | slice content =>
    have hfits : content.length < 2 ^ 64 := h
    have hlength : (UInt64.ofNat content.length).toNat = content.length := by
      rw [UInt64.toNat_ofNat']
      exact Nat.mod_eq_of_lt hfits
    simp only [RawValue.wireType, RawValue.encode, readValue, List.append_assoc,
      Cursor.varint_encodeNat hfits, hlength, Cursor.slice_append, List.length_append,
      Nat.add_assoc]

theorem slice_of_readValue {c after : Cursor} {v : RawValue}
    (h : readValue .lengthDelimited c = .ok (v, after)) :
    ∃ n start content, c.varint = (.ok n, start) ∧ start.slice n.toNat = (.ok content, after) ∧
      v = .slice content := by
  simp only [readValue] at h
  split at h
  · simp at h
  · rename_i n start hvarint
    split at h
    · rename_i content left hslice
      simp only [Except.ok.injEq, Prod.mk.injEq] at h
      obtain ⟨hv, hleft⟩ := h
      exact ⟨n, start, content, hvarint, by rw [hslice, hleft], hv.symm⟩
    · simp at h

/-- A value that was read is of the type asked for and is written in no more bytes than it took. -/
theorem readValue_size {wireType : WireType} {c after : Cursor} {v : RawValue}
    (h : readValue wireType c = .ok (v, after)) :
    v.wireType = wireType ∧ v.content.length < 2 ^ 64 ∧
      v.encode.length + after.rest.length ≤ c.rest.length := by
  cases wireType with
  | varint =>
    simp only [readValue] at h
    split at h
    · rename_i n left hvarint
      have hsize := Cursor.varint_size hvarint
      simp only [Except.ok.injEq, Prod.mk.injEq] at h
      obtain ⟨hv, hleft⟩ := h
      subst hv hleft
      exact ⟨rfl, by simp [RawValue.content], hsize⟩
    · simp at h
  | fixed64 =>
    simp only [readValue] at h
    split at h
    · rename_i n left hfixed
      have hsize := Cursor.fixed64_size hfixed
      simp only [Except.ok.injEq, Prod.mk.injEq] at h
      obtain ⟨hv, hleft⟩ := h
      subst hv hleft
      refine ⟨rfl, by simp [RawValue.content], ?_⟩
      rw [RawValue.encode, littleEndian_length]
      omega
    · simp at h
  | fixed32 =>
    simp only [readValue] at h
    split at h
    · rename_i n left hfixed
      have hsize := Cursor.fixed32_size hfixed
      simp only [Except.ok.injEq, Prod.mk.injEq] at h
      obtain ⟨hv, hleft⟩ := h
      subst hv hleft
      refine ⟨rfl, by simp [RawValue.content], ?_⟩
      rw [RawValue.encode, littleEndian_length]
      omega
    · simp at h
  | lengthDelimited =>
    obtain ⟨n, start, content, hvarint, hslice, rfl⟩ := slice_of_readValue h
    have hprefix := Cursor.varint_size hvarint
    have hword := n.toNat_lt
    have hcount := Cursor.slice_count hslice
    have hlength := Cursor.slice_length hslice
    rw [Varint.encode, ← hcount] at hprefix
    refine ⟨rfl, by simp only [RawValue.content]; omega, ?_⟩
    rw [RawValue.encode, List.length_append]
    omega

/-! ### Records -/

theorem readRecord_encode {number : Nat} (hpos : 1 ≤ number) (hlt : number < 2 ^ 61) (v : RawValue)
    (h : v.content.length < 2 ^ 64) (offset : Nat) (rest : Bytes) :
    ∃ behind, readRecord ⟨offset, encodeTag number v.wireType ++ v.encode ++ rest⟩ =
      .ok ⟨⟨number, v.wireType, v⟩, ⟨behind, rest⟩⟩ := by
  refine ⟨offset + (encodeTag number v.wireType).length + v.encode.length, ?_⟩
  simp only [readRecord, List.append_assoc, Cursor.tag_encodeTag hpos hlt, readValue_encode v h]

/-- A record is read as its tag and, from behind it, its value. -/
theorem tag_of_readRecord {c : Cursor} {r : Record} (h : readRecord c = .ok r) :
    ∃ behind, c.tag = (.ok (r.number, r.wireType), behind) ∧
      readValue r.wireType behind = .ok (r.value, r.after) := by
  unfold readRecord at h
  split at h
  · simp at h
  · rename_i number wireType behind htag
    split at h
    · rename_i v left hvalue
      simp only [Except.ok.injEq] at h
      subst h
      exact ⟨behind, htag, hvalue⟩
    · simp at h

/-- What holds of a record that was read, sizes as in `readValue_size`. -/
theorem readRecord_size {c : Cursor} {r : Record} (h : readRecord c = .ok r) :
    (1 ≤ r.number ∧ r.number < 2 ^ 61) ∧ r.value.wireType = r.wireType ∧
      r.value.content.length < 2 ^ 64 ∧
      (encodeTag r.number r.wireType).length + r.value.encode.length + r.after.rest.length ≤
        c.rest.length := by
  obtain ⟨behind, htag, hvalue⟩ := tag_of_readRecord h
  obtain ⟨hpos, hlt, htagSize⟩ := Cursor.tag_size htag
  obtain ⟨htype, hcontent, hvalueSize⟩ := readValue_size hvalue
  exact ⟨⟨hpos, hlt⟩, htype, hcontent, by omega⟩

end TrackerTraffic.Wire
