import TrackerTraffic.Proofs.WireConcat

/-!
# Slices inside a message

The tag and the length in front of a slice say how many bytes it has, whatever these are.  So other
bytes of the same length in its place are a slice again, and no other field is read differently: a
nested reader never leaves its slice, and what it fails at stays inside.
-/

namespace TrackerTraffic.Wire

/-! ### Headers -/

/-- A tag of a length-delimited field, and a length. -/
def IsHeader (header : Bytes) (number length : Nat) : Prop :=
  ∃ tag size : Bytes, ∃ n : UInt64, header = tag ++ size ∧ n.toNat = length ∧
    Takes Cursor.tag tag (number, .lengthDelimited) ∧ Takes Cursor.varint size n

theorem Takes.tag_ne_nil {tag : Bytes} {t : Nat × WireType} (h : Takes Cursor.tag tag t) :
    tag ≠ [] := by
  intro hnil
  have hlength := Cursor.tag_length (h 0 [])
  simp [hnil] at hlength

/-- A header makes a record of any bytes of its length. -/
theorem IsHeader.isRecord {header content : Bytes} {number : Nat}
    (h : IsHeader header number content.length) :
    IsRecord (header ++ content) ⟨number, .lengthDelimited, .slice content⟩ := by
  obtain ⟨tag, size, n, hheader, hlength, htag, hsize⟩ := h
  subst hheader
  refine ⟨by simp [htag.tag_ne_nil], ?_⟩
  intro offset more
  have hslice := Cursor.slice_append (offset + (tag.length + size.length)) content more
  simp only [readRecord, readValue, List.append_assoc, htag offset, hsize (offset + tag.length),
    hlength, hslice, List.length_append, Nat.add_assoc]

theorem IsRecord.exists_header {taken : Bytes} {number : Nat} {v : RawValue}
    (h : IsRecord taken ⟨number, .lengthDelimited, v⟩) :
    ∃ header content, taken = header ++ content ∧ v = .slice content ∧
      IsHeader header number content.length := by
  obtain ⟨behind, htag, hvalue⟩ := tag_of_readRecord (h.reads 0 [])
  obtain ⟨n, start, content, hvarint, hslice, hv⟩ := slice_of_readValue hvalue
  obtain ⟨tag, htagBytes, -, htakes⟩ := exists_takes_tag htag
  obtain ⟨size, hsizeBytes, -, hsizes⟩ := exists_takes_varint hvarint
  obtain ⟨hcontent, -⟩ := exists_takes_slice hslice
  have hcount := Cursor.slice_count hslice
  refine ⟨tag ++ size, content, ?_, hv, tag, size, n, rfl, hcount.symm, htakes, hsizes⟩
  rw [hsizeBytes, hcontent] at htagBytes
  simpa using htagBytes

theorem isHeader_encode {number length : Nat} (hpos : 1 ≤ number) (hlt : number < 2 ^ 61)
    (hlength : length < 2 ^ 64) :
    IsHeader (encodeTag number .lengthDelimited ++ Varint.encodeNat length) number length := by
  refine ⟨_, _, UInt64.ofNat length, rfl, ?_, ?_, ?_⟩
  · rw [UInt64.toNat_ofNat']
    exact Nat.mod_eq_of_lt hlength
  · exact Cursor.tag_encodeTag hpos hlt .lengthDelimited
  · exact Cursor.varint_encodeNat hlength

/-! ### Places of fields -/

theorem parseMessage_flatten {slices : List Bytes} {contents : List (Tagged RawValue)}
    (h : List.Forall₂ IsRecord slices contents) :
    parseMessage slices.flatten = .ok (contents.map Tagged.field) := by
  have hparse := parseFrom_records h 0 []
  rw [List.append_nil, parseFrom_nil] at hparse
  show parseFrom ⟨0, slices.flatten⟩ = _
  simpa [Except.map] using hparse

theorem parseMessage_append_ok {front back : Bytes} {fields others : List Field}
    (hfront : parseMessage front = .ok fields) (hback : parseMessage back = .ok others) :
    parseMessage (front ++ back) = .ok (fields ++ others) := by
  rw [parseMessage_append_eq hfront, hback]
  rfl

/-- A field stands in the bytes as a record between those of the fields around it. -/
theorem exists_record {bytes : Bytes} {before after : List Field} {field : Field}
    (h : parseMessage bytes = .ok (before ++ field :: after)) :
    ∃ front taken back content, bytes = front ++ taken ++ back ∧
      parseMessage front = .ok before ∧ IsRecord taken content ∧ content.field = field ∧
      parseMessage back = .ok after := by
  obtain ⟨slices, contents, hbytes, hfields, hrecords⟩ := exists_records h
  obtain ⟨first, others, rfl, hfirst, hothers⟩ := List.map_eq_append_iff.1 hfields.symm
  obtain ⟨content, rest, rfl, hcontent, hrest⟩ := List.map_eq_cons_iff.1 hothers
  have hfront := List.forall₂_take_append slices first (content :: rest) hrecords
  have hback := List.forall₂_drop_append slices first (content :: rest) hrecords
  obtain ⟨taken, behind, htaken, hbehind, hdrop⟩ := List.forall₂_cons_right_iff.1 hback
  refine ⟨(slices.take first.length).flatten, taken, behind.flatten, content, ?_, ?_, htaken,
    hcontent, ?_⟩
  · rw [List.append_assoc, ← List.flatten_cons, ← hdrop, ← List.flatten_append,
      List.take_append_drop]
    exact hbytes
  · rw [parseMessage_flatten hfront, hfirst]
  · rw [parseMessage_flatten hbehind, hrest]

/-! ### Other content -/

/-- The content of a length-delimited field: in front of it whole fields and its own tag and length,
and whole fields behind it. -/
structure IsContent (bytes : Bytes) (before : List Field) (number : Nat) (after : List Field)
    (front content back : Bytes) : Prop where
  bytes_eq : bytes = front ++ content ++ back
  front_reads : ∃ records header, front = records ++ header ∧ parseMessage records = .ok before ∧
    IsHeader header number content.length
  back_reads : parseMessage back = .ok after

theorem exists_isContent {bytes : Bytes} {before after : List Field} {number : Nat}
    {payload : Payload}
    (h : parseMessage bytes = .ok (before ++ ⟨number, .lengthDelimited, payload⟩ :: after)) :
    ∃ front content back, IsContent bytes before number after front content back := by
  obtain ⟨records, taken, back, ⟨n, wireType, v⟩, hbytes, hrecords, htaken, hfield, hback⟩ :=
    exists_record h
  simp only [Tagged.field, Tagged.mk.injEq] at hfield
  obtain ⟨rfl, rfl, -⟩ := hfield
  obtain ⟨header, content, rfl, -, hheader⟩ := htaken.exists_header
  refine ⟨records ++ header, content, back, ?_, ⟨records, header, rfl, hrecords, hheader⟩, hback⟩
  rw [hbytes]
  simp only [List.append_assoc]

theorem IsContent.parseMessage_eq {bytes : Bytes} {before after : List Field} {number : Nat}
    {front content back : Bytes} (h : IsContent bytes before number after front content back)
    {other : Bytes} (hlength : other.length = content.length) :
    parseMessage (front ++ other ++ back) =
      .ok (before ++ ⟨number, .lengthDelimited, (RawValue.slice other).payload⟩ :: after) := by
  obtain ⟨records, header, rfl, hrecords, hheader⟩ := h.front_reads
  rw [← hlength] at hheader
  have hfield := parseMessage_append_ok hheader.isRecord.parseMessage_eq h.back_reads
  have hbytes : records ++ header ++ other ++ back = records ++ (header ++ other ++ back) := by
    simp only [List.append_assoc]
  rw [hbytes, parseMessage_append_ok hrecords hfield]
  rfl

/--
The content of a length-delimited field can be replaced by any bytes of the same length: the message
reads, with all other fields as they were, and in this one stands the message that the new content
reads as by itself if it is not empty, or else the new content.
-/
theorem parseMessage_replace {bytes : Bytes} {before after : List Field} {number : Nat}
    {payload : Payload}
    (h : parseMessage bytes = .ok (before ++ ⟨number, .lengthDelimited, payload⟩ :: after)) :
    (∃ front content back, IsContent bytes before number after front content back) ∧
    ∀ front content back, IsContent bytes before number after front content back →
      ∀ other : Bytes, other.length = content.length →
        ∃ replaced, parseMessage (front ++ other ++ back) =
            .ok (before ++ ⟨number, .lengthDelimited, replaced⟩ :: after) ∧
          (∀ nested, other ≠ [] → parseMessage other = .ok nested →
            replaced = .message nested) ∧
          ((other = [] ∨ ∃ e, parseMessage other = .error e) → replaced = .bytes other) := by
  refine ⟨exists_isContent h, ?_⟩
  intro front content back hcontent other hlength
  refine ⟨(RawValue.slice other).payload, hcontent.parseMessage_eq hlength, ?_, ?_⟩
  · intro nested hne hnested
    exact RawValue.payload_slice_ok hne hnested
  · intro hkept
    rcases hkept with hnil | ⟨e, herror⟩
    · rw [hnil]
      exact RawValue.payload_slice_nil
    · exact RawValue.payload_slice_error herror

/-- A nested message between two fields, and in its place a length that reaches past it. -/
theorem parseMessage_replace_past_end :
    let bytes : Bytes := [0x08, 0x07, 0x12, 0x02, 0x08, 0x01, 0x18, 0x05]
    let before : List Field := [⟨1, .varint, .varint 7⟩]
    let after : List Field := [⟨3, .varint, .varint 5⟩]
    parseMessage bytes = .ok (before ++
        ⟨2, .lengthDelimited, .message [⟨1, .varint, .varint 1⟩]⟩ :: after) ∧
      parseMessage ([0x08, 0x07, 0x12, 0x02] ++ [0x0a, 0x02] ++ [0x18, 0x05]) =
        .ok (before ++ ⟨2, .lengthDelimited, .bytes [0x0a, 0x02]⟩ :: after) := by
  intro bytes before after
  have hbytes : parseMessage bytes = .ok (before ++
      ⟨2, .lengthDelimited, .message [⟨1, .varint, .varint 1⟩]⟩ :: after) := by cbv
  have hbefore : parseMessage [0x08, 0x07] = .ok before := by cbv
  have hafter : parseMessage [0x18, 0x05] = .ok after := by cbv
  have herror : parseMessage [0x0a, 0x02] = .error (.exhausted 2 2 0) := by cbv
  have hheader : IsHeader [0x12, 0x02] 2 2 := by
    have hencode : encodeTag 2 .lengthDelimited ++ Varint.encodeNat 2 = [0x12, 0x02] := by cbv
    rw [← hencode]
    exact isHeader_encode (by omega) (by omega) (by omega)
  have hcontent : IsContent bytes before 2 after [0x08, 0x07, 0x12, 0x02] [0x08, 0x01]
      [0x18, 0x05] :=
    ⟨rfl, ⟨[0x08, 0x07], [0x12, 0x02], rfl, hbefore, hheader⟩, hafter⟩
  obtain ⟨replaced, hparse, -, hkept⟩ :=
    (parseMessage_replace hbytes).2 _ _ _ hcontent [0x0a, 0x02] rfl
  rw [hkept (.inr ⟨_, herror⟩)] at hparse
  exact ⟨hbytes, hparse⟩

end TrackerTraffic.Wire
