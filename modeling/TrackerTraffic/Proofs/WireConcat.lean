import TrackerTraffic.Proofs.WireRoundTrip

/-!
# Messages behind one another

What a reader takes reads the same from any offset and with anything behind it.  So a message
is cut at its records: each of them is a message by itself, and a further message behind the
last one adds its own fields or its own error, which then stands so many bytes further on.
-/

namespace TrackerTraffic

namespace Wire

/-! ### What readers take -/

/-- The reader takes the bytes as the value, wherever they stand and whatever follows them. -/
def Takes {α : Type} (reader : Cursor → Except WireError α × Cursor) (taken : Bytes)
    (value : α) : Prop :=
  ∀ offset more, reader ⟨offset, taken ++ more⟩ = (.ok value, ⟨offset + taken.length, more⟩)

theorem exists_takes_varint {c after : Cursor} {n : UInt64} (h : c.varint = (.ok n, after)) :
    ∃ taken, c.rest = taken ++ after.rest ∧ taken ≠ [] ∧ Takes Cursor.varint taken n := by
  unfold Cursor.varint at h
  split at h
  · rename_i m left hread
    simp only [Prod.mk.injEq, Except.ok.injEq] at h
    obtain ⟨taken, happend, hpos, -, htaken⟩ := Varint.exists_taken hread
    refine ⟨taken, by rw [happend, ← h.2, Cursor.moveTo], List.ne_nil_of_length_pos hpos, ?_⟩
    intro offset more
    simp only [Cursor.varint, htaken more, Cursor.moveTo_append, h.1]
  · simp at h
  · simp at h

theorem exists_takes_slice {count : Nat} {c after : Cursor} {content : Bytes}
    (h : c.slice count = (.ok content, after)) :
    c.rest = content ++ after.rest ∧ Takes (Cursor.slice count) content content := by
  have hcount := Cursor.slice_count h
  unfold Cursor.slice at h
  split at h
  · simp at h
  · simp only [Prod.mk.injEq, Except.ok.injEq] at h
    refine ⟨by rw [← h.1, ← h.2, Cursor.moveTo, List.take_append_drop], ?_⟩
    intro offset more
    rw [← hcount]
    exact Cursor.slice_append offset content more

theorem exists_takes_fixed64 {c after : Cursor} {n : UInt64} (h : c.fixed64 = (.ok n, after)) :
    ∃ taken, c.rest = taken ++ after.rest ∧ Takes Cursor.fixed64 taken n := by
  unfold Cursor.fixed64 at h
  split at h
  · rename_i content left hslice
    simp only [Prod.mk.injEq, Except.ok.injEq] at h
    obtain ⟨happend, htakes⟩ := exists_takes_slice hslice
    refine ⟨content, by rw [happend, h.2], ?_⟩
    intro offset more
    simp only [Cursor.fixed64, htakes offset more, h.1]
  · simp at h

theorem exists_takes_fixed32 {c after : Cursor} {n : UInt32} (h : c.fixed32 = (.ok n, after)) :
    ∃ taken, c.rest = taken ++ after.rest ∧ Takes Cursor.fixed32 taken n := by
  unfold Cursor.fixed32 at h
  split at h
  · rename_i content left hslice
    simp only [Prod.mk.injEq, Except.ok.injEq] at h
    obtain ⟨happend, htakes⟩ := exists_takes_slice hslice
    refine ⟨content, by rw [happend, h.2], ?_⟩
    intro offset more
    simp only [Cursor.fixed32, htakes offset more, h.1]
  · simp at h

theorem exists_takes_tag {c after : Cursor} {t : Nat × WireType} (h : c.tag = (.ok t, after)) :
    ∃ taken, c.rest = taken ++ after.rest ∧ taken ≠ [] ∧ Takes Cursor.tag taken t := by
  unfold Cursor.tag at h
  split at h
  · simp at h
  · rename_i word left hvarint
    obtain ⟨taken, happend, hne, htakes⟩ := exists_takes_varint hvarint
    split at h
    · simp at h
    · rename_i hzero
      split at h
      · rename_i found hbits
        simp only [Prod.mk.injEq, Except.ok.injEq] at h
        refine ⟨taken, by rw [happend, h.2], hne, ?_⟩
        intro offset more
        simp only [Cursor.tag, htakes offset more, if_neg hzero, hbits, h.1]
      · simp at h

/-- The bytes read as the value of the type, wherever they stand and whatever follows them. -/
def IsValue (wireType : WireType) (taken : Bytes) (v : RawValue) : Prop :=
  ∀ offset more,
    readValue wireType ⟨offset, taken ++ more⟩ = .ok (v, ⟨offset + taken.length, more⟩)

theorem exists_isValue {wireType : WireType} {c after : Cursor} {v : RawValue}
    (h : readValue wireType c = .ok (v, after)) :
    ∃ taken, c.rest = taken ++ after.rest ∧ IsValue wireType taken v := by
  cases wireType with
  | varint =>
    simp only [readValue] at h
    split at h
    · rename_i n left hvarint
      simp only [Except.ok.injEq, Prod.mk.injEq] at h
      obtain ⟨taken, happend, -, htakes⟩ := exists_takes_varint hvarint
      refine ⟨taken, by rw [happend, h.2], ?_⟩
      intro offset more
      simp only [readValue, htakes offset more, h.1]
    · simp at h
  | fixed64 =>
    simp only [readValue] at h
    split at h
    · rename_i n left hfixed
      simp only [Except.ok.injEq, Prod.mk.injEq] at h
      obtain ⟨taken, happend, htakes⟩ := exists_takes_fixed64 hfixed
      refine ⟨taken, by rw [happend, h.2], ?_⟩
      intro offset more
      simp only [readValue, htakes offset more, h.1]
    · simp at h
  | fixed32 =>
    simp only [readValue] at h
    split at h
    · rename_i n left hfixed
      simp only [Except.ok.injEq, Prod.mk.injEq] at h
      obtain ⟨taken, happend, htakes⟩ := exists_takes_fixed32 hfixed
      refine ⟨taken, by rw [happend, h.2], ?_⟩
      intro offset more
      simp only [readValue, htakes offset more, h.1]
    · simp at h
  | lengthDelimited =>
    obtain ⟨n, start, content, hvarint, hslice, rfl⟩ := slice_of_readValue h
    obtain ⟨taken, happend, -, htakes⟩ := exists_takes_varint hvarint
    obtain ⟨hcontent, hslices⟩ := exists_takes_slice hslice
    -- the length is taken first, and the content from what is left behind it
    refine ⟨taken ++ content, by rw [happend, hcontent, List.append_assoc], ?_⟩
    intro offset more
    simp only [readValue, List.append_assoc, htakes offset, hslices (offset + taken.length),
      List.length_append, Nat.add_assoc]

/-- The bytes are one record, wherever they stand and whatever follows them. -/
structure IsRecord (taken : Bytes) (content : Tagged RawValue) : Prop where
  ne_nil : taken ≠ []
  reads : ∀ offset more,
    readRecord ⟨offset, taken ++ more⟩ = .ok ⟨content, ⟨offset + taken.length, more⟩⟩

theorem exists_isRecord {c : Cursor} {r : Record} (h : readRecord c = .ok r) :
    ∃ taken, c.rest = taken ++ r.after.rest ∧ IsRecord taken r.toTagged := by
  obtain ⟨behind, htag, hvalue⟩ := tag_of_readRecord h
  obtain ⟨taken, happend, hne, htakes⟩ := exists_takes_tag htag
  obtain ⟨content, hcontent, hreads⟩ := exists_isValue hvalue
  refine ⟨taken ++ content, by rw [happend, hcontent, List.append_assoc], by simp [hne], ?_⟩
  intro offset more
  simp only [readRecord, List.append_assoc, htakes offset, hreads (offset + taken.length),
    List.length_append, Nat.add_assoc]

/-! ### Errors further on -/

/-- The error of the same kind, so many bytes further on. -/
def WireError.shift (count : Nat) : WireError → WireError
  | .exhausted offset needed available => .exhausted (offset + count) needed available
  | .unknownWireType wireType offset => .unknownWireType wireType (offset + count)
  | .varintOverflow offset => .varintOverflow (offset + count)
  | .invalidFieldNumber offset => .invalidFieldNumber (offset + count)

def Cursor.shift (count : Nat) (c : Cursor) : Cursor := ⟨c.offset + count, c.rest⟩

/-- What a reader comes to so many bytes further on. -/
def shiftBoth {α : Type} (count : Nat) (result : Except WireError α × Cursor) :
    Except WireError α × Cursor :=
  (result.1.mapError (WireError.shift count), result.2.shift count)

theorem Cursor.shift_moveTo (count : Nat) (c : Cursor) (after : Bytes) :
    (c.moveTo after).shift count = (c.shift count).moveTo after := by
  simp only [moveTo, shift, Nat.add_right_comm]

theorem varint_shift (count : Nat) (c : Cursor) :
    (c.shift count).varint = shiftBoth count c.varint := by
  have hrest : (c.shift count).rest = c.rest := rfl
  simp only [Cursor.varint, hrest]
  split <;> simp only [← Cursor.shift_moveTo] <;> rfl

theorem slice_shift (length count : Nat) (c : Cursor) :
    (c.shift count).slice length = shiftBoth count (c.slice length) := by
  have havailable : (c.shift count).available = c.available := rfl
  rw [Cursor.slice, Cursor.slice]
  by_cases hlt : c.available < length
  · rw [if_pos hlt, if_pos (by rwa [havailable])]
    rfl
  · rw [if_neg hlt, if_neg (by rwa [havailable]), shiftBoth, Cursor.shift_moveTo]
    rfl

theorem fixed64_shift (count : Nat) (c : Cursor) :
    (c.shift count).fixed64 = shiftBoth count c.fixed64 := by
  rw [Cursor.fixed64, Cursor.fixed64, slice_shift]
  rcases c.slice 8 with ⟨_ | _, after⟩ <;> rfl

theorem fixed32_shift (count : Nat) (c : Cursor) :
    (c.shift count).fixed32 = shiftBoth count c.fixed32 := by
  rw [Cursor.fixed32, Cursor.fixed32, slice_shift]
  rcases c.slice 4 with ⟨_ | _, after⟩ <;> rfl

theorem tag_shift (count : Nat) (c : Cursor) :
    (c.shift count).tag = shiftBoth count c.tag := by
  rw [Cursor.tag, Cursor.tag, varint_shift]
  rcases c.varint with ⟨e | word, after⟩
  · rfl
  · simp only [shiftBoth, Except.mapError]
    split
    · rfl
    · split <;> rfl

theorem readValue_shift (wireType : WireType) (count : Nat) (c : Cursor) :
    readValue wireType (c.shift count) =
      ((readValue wireType c).mapError (WireError.shift count)).map
        fun result => (result.1, result.2.shift count) := by
  cases wireType with
  | varint =>
    simp only [readValue, varint_shift]
    rcases c.varint with ⟨_ | _, after⟩ <;> rfl
  | fixed64 =>
    simp only [readValue, fixed64_shift]
    rcases c.fixed64 with ⟨_ | _, after⟩ <;> rfl
  | fixed32 =>
    simp only [readValue, fixed32_shift]
    rcases c.fixed32 with ⟨_ | _, after⟩ <;> rfl
  | lengthDelimited =>
    simp only [readValue, varint_shift]
    rcases c.varint with ⟨_ | n, after⟩
    · rfl
    · simp only [shiftBoth, Except.mapError, slice_shift]
      rcases after.slice n.toNat with ⟨_ | _, behind⟩ <;> rfl

theorem readRecord_shift (count : Nat) (c : Cursor) :
    readRecord (c.shift count) =
      ((readRecord c).mapError (WireError.shift count)).map
        fun r => ⟨r.toTagged, r.after.shift count⟩ := by
  simp only [readRecord, tag_shift]
  rcases c.tag with ⟨_ | ⟨number, wireType⟩, after⟩
  · rfl
  · simp only [shiftBoth, Except.mapError, readValue_shift]
    rcases readValue wireType after with _ | ⟨v, behind⟩ <;> rfl

/-- The fields do not depend on the offset, and an error depends on it by its own offset only. -/
theorem parseFrom_shift (count : Nat) (c : Cursor) :
    parseFrom (c.shift count) = (parseFrom c).mapError (WireError.shift count) := by
  -- by the length of what is left: every record is followed by fewer bytes
  induction hsize : c.rest.length using Nat.strongRecOn generalizing c with
  | ind size ih =>
    have hrecord := readRecord_shift count c
    by_cases hnil : c.rest = []
    · obtain ⟨offset, rest⟩ := c
      subst hnil
      rw [Cursor.shift, parseFrom_nil, parseFrom_nil]
      rfl
    · have hrest : (c.shift count).rest ≠ [] := hnil
      cases h : readRecord c with
      | error e =>
        rw [h] at hrecord
        rw [parseFrom_of_error hnil h, parseFrom_of_error hrest hrecord]
        rfl
      | ok r =>
        have hshorter := readRecord_length h
        rw [h] at hrecord
        rw [parseFrom_of_ok hnil h, parseFrom_of_ok hrest hrecord,
          ih r.after.rest.length (by omega) r.after rfl]
        cases parseFrom r.after <;> rfl

theorem parseFrom_offset (offset : Nat) (bytes : Bytes) :
    parseFrom ⟨offset, bytes⟩ = (parseMessage bytes).mapError (WireError.shift offset) := by
  have hshift := parseFrom_shift offset (.start bytes)
  rwa [Cursor.shift, Cursor.start, Nat.zero_add] at hshift

/-! ### Records behind one another -/

def Tagged.field (content : Tagged RawValue) : Field :=
  ⟨content.number, content.wireType, content.value.payload⟩

theorem IsRecord.parseFrom_append {taken : Bytes} {content : Tagged RawValue}
    (h : IsRecord taken content) (offset : Nat) (more : Bytes) :
    parseFrom ⟨offset, taken ++ more⟩ =
      (parseFrom ⟨offset + taken.length, more⟩).map (content.field :: ·) := by
  have hne : taken ++ more ≠ [] := by simp [h.ne_nil]
  exact parseFrom_of_ok hne (h.reads offset more)

theorem IsRecord.parseMessage_eq {taken : Bytes} {content : Tagged RawValue}
    (h : IsRecord taken content) : parseMessage taken = .ok [content.field] := by
  have happend := h.parseFrom_append 0 []
  rw [List.append_nil, parseFrom_nil] at happend
  exact happend

/-- The bytes of a message are those of its records, one behind the other. -/
theorem exists_records {c : Cursor} {fields : List Field} (h : parseFrom c = .ok fields) :
    ∃ slices contents, c.rest = slices.flatten ∧ fields = contents.map Tagged.field ∧
      List.Forall₂ IsRecord slices contents := by
  induction hsize : c.rest.length using Nat.strongRecOn generalizing c fields with
  | ind size ih =>
    rcases parseFrom_cases h with ⟨hnil, rfl⟩ | ⟨r, others, hrecord, hothers, rfl⟩
    · exact ⟨[], [], by rw [hnil]; rfl, rfl, .nil⟩
    · have hshorter := readRecord_length hrecord
      obtain ⟨taken, happend, htaken⟩ := exists_isRecord hrecord
      obtain ⟨slices, contents, hslices, rfl, hrecords⟩ :=
        ih r.after.rest.length (by omega) hothers rfl
      refine ⟨taken :: slices, r.toTagged :: contents, ?_, rfl, .cons htaken hrecords⟩
      rw [happend, hslices, List.flatten_cons]

theorem parseFrom_records {slices : List Bytes} {contents : List (Tagged RawValue)}
    (h : List.Forall₂ IsRecord slices contents) (offset : Nat) (more : Bytes) :
    parseFrom ⟨offset, slices.flatten ++ more⟩ =
      (parseFrom ⟨offset + slices.flatten.length, more⟩).map (contents.map Tagged.field ++ ·) := by
  induction h generalizing offset with
  | nil =>
    simp only [List.flatten_nil, List.nil_append, List.map_nil, List.length_nil, Nat.add_zero]
    cases parseFrom ⟨offset, more⟩ <;> rfl
  | @cons taken content slices contents htaken _ ih =>
    rw [List.flatten_cons, List.append_assoc, htaken.parseFrom_append, ih, List.length_append,
      Nat.add_assoc]
    cases parseFrom ⟨offset + (taken.length + slices.flatten.length), more⟩ <;> rfl

theorem parseMessage_append_eq {front : Bytes} {fields : List Field}
    (h : parseMessage front = .ok fields) (back : Bytes) :
    parseMessage (front ++ back) =
      ((parseMessage back).mapError (WireError.shift front.length)).map (fields ++ ·) := by
  obtain ⟨slices, contents, hfront, rfl, hrecords⟩ := exists_records h
  have hbytes : front = slices.flatten := hfront
  subst hbytes
  have happend := parseFrom_records hrecords 0 back
  rw [Nat.zero_add, parseFrom_offset slices.flatten.length] at happend
  exact happend

/-- Behind a message that reads, a further message adds its fields, and bytes that are none add
their error, so many bytes further on.  A message that reads is cut in this way at its records. -/
theorem parseMessage_concat {front : Bytes} {fields : List Field}
    (h : parseMessage front = .ok fields) :
    (∀ back others, parseMessage back = .ok others →
      parseMessage (front ++ back) = .ok (fields ++ others)) ∧
    (∀ back e, parseMessage back = .error e →
      parseMessage (front ++ back) = .error (e.shift front.length)) ∧
    ∃ slices : List Bytes, front = slices.flatten ∧
      List.Forall₂ (fun slice field => slice ≠ [] ∧ parseMessage slice = .ok [field])
        slices fields := by
  refine ⟨?_, ?_, ?_⟩
  · intro back others hback
    rw [parseMessage_append_eq h, hback]
    rfl
  · intro back e hback
    rw [parseMessage_append_eq h, hback]
    rfl
  · obtain ⟨slices, contents, hfront, rfl, hrecords⟩ := exists_records h
    refine ⟨slices, hfront, ?_⟩
    rw [List.forall₂_map_right_iff]
    exact hrecords.imp fun slice content hrecord => ⟨hrecord.ne_nil, hrecord.parseMessage_eq⟩

/-- A record with a tag of a byte too many and a nested message; then bytes that end in a slice. -/
theorem parseMessage_concat_nested :
    let front : Bytes := [0x88, 0x00, 0x05, 0x12, 0x02, 0x08, 0x01]
    let fields : List Field := [⟨1, .varint, .varint 5⟩,
      ⟨2, .lengthDelimited, .message [⟨1, .varint, .varint 1⟩]⟩]
    parseMessage front = .ok fields ∧
      parseMessage [0x1a, 0x03, 0x61] = .error (.exhausted 2 3 1) ∧
      parseMessage (front ++ [0x1a, 0x03, 0x61]) = .error (.exhausted 9 3 1) := by
  intro front fields
  have hfront : parseMessage front = .ok fields := by cbv
  have hback : parseMessage [0x1a, 0x03, 0x61] = .error (.exhausted 2 3 1) := by cbv
  exact ⟨hfront, hback, (parseMessage_concat hfront).2.1 _ _ hback⟩

end Wire

end TrackerTraffic
