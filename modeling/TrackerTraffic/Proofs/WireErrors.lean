import TrackerTraffic.Proofs.WireBounds
import TrackerTraffic.Proofs.WireSlices

/-!
# Where reading fails

Bytes that are no message consist of whole records, which are a message, and of a record that fails.
The error carries the start of that record, or a place from there on at which bytes are wanting or a
varint runs on.  No reader leaves its buffer on the way.
-/

namespace TrackerTraffic.Wire

/-! ### Cursors that move -/

/-- The second cursor stands behind bytes of the first one. -/
def Behind (c after : Cursor) : Prop :=
  ∃ taken, c.rest = taken ++ after.rest ∧ after.offset = c.offset + taken.length

theorem Takes.behind {α : Type} {reader : Cursor → Except WireError α × Cursor} {taken : Bytes}
    {value : α} (h : Takes reader taken value) {c after : Cursor}
    (hread : reader c = (.ok value, after)) (hrest : c.rest = taken ++ after.rest) :
    Behind c after := by
  obtain ⟨offset, rest⟩ := c
  subst hrest
  rw [h offset after.rest] at hread
  exact ⟨taken, rfl, congrArg (Cursor.offset ·.2) hread.symm⟩

theorem behind_of_varint {c after : Cursor} {n : UInt64} (h : c.varint = (.ok n, after)) :
    Behind c after := by
  obtain ⟨taken, hrest, -, htakes⟩ := exists_takes_varint h
  exact htakes.behind h hrest

theorem behind_of_tag {c after : Cursor} {t : Nat × WireType} (h : c.tag = (.ok t, after)) :
    Behind c after := by
  obtain ⟨taken, hrest, -, htakes⟩ := exists_takes_tag h
  exact htakes.behind h hrest

/-! ### Errors of a record -/

/-- From the cursor on, there is a place where bytes are wanting or a varint runs on. -/
def FallsShort (c : Cursor) : WireError → Prop
  | .exhausted offset needed available =>
    ∃ after, Behind c after ∧ offset = after.offset ∧ available = after.rest.length ∧
      available < needed
  | .varintOverflow offset => ∃ after, Behind c after ∧ offset = after.offset ∧ RunsOn after.rest
  | _ => False

theorem Behind.refl (c : Cursor) : Behind c c := ⟨[], rfl, rfl⟩

theorem Behind.trans {a b c : Cursor} (h : Behind a b) (h' : Behind b c) : Behind a c := by
  obtain ⟨taken, hrest, hoffset⟩ := h
  obtain ⟨more, hmore, hfurther⟩ := h'
  refine ⟨taken ++ more, by rw [hrest, hmore, List.append_assoc], ?_⟩
  rw [hfurther, hoffset, List.length_append, Nat.add_assoc]

theorem FallsShort.of_behind {c after : Cursor} (h : Behind c after) {e : WireError}
    (he : FallsShort after e) : FallsShort c e := by
  cases e with
  | exhausted offset needed available =>
    obtain ⟨place, hplace, hrest⟩ := he
    exact ⟨place, h.trans hplace, hrest⟩
  | varintOverflow offset =>
    obtain ⟨place, hplace, hrest⟩ := he
    exact ⟨place, h.trans hplace, hrest⟩
  | unknownWireType => exact he
  | invalidFieldNumber => exact he

theorem fallsShort_varint {c after : Cursor} {e : WireError} (h : c.varint = (.error e, after)) :
    FallsShort c e := by
  obtain ⟨offset, bytes⟩ := c
  cases Varint.scan 10 bytes with
  | stops front last left hfront hlast hlimit =>
    simp [Cursor.varint_stops offset left hfront hlast hlimit] at h
  | ends hbytes hlimit =>
    rw [Cursor.varint_ends offset hbytes hlimit] at h
    obtain ⟨rfl, rfl⟩ := h
    exact ⟨⟨offset + bytes.length, []⟩, ⟨bytes, by simp, rfl⟩, rfl, rfl, Nat.one_pos⟩
  | runsOn front left hfront hlimit =>
    rw [Cursor.varint_runsOn offset left hfront hlimit] at h
    obtain ⟨rfl, rfl⟩ := h
    exact ⟨_, .refl _, rfl, runsOn_append left hfront hlimit⟩

theorem fallsShort_slice {count : Nat} {c after : Cursor} {e : WireError}
    (h : c.slice count = (.error e, after)) : FallsShort c e := by
  unfold Cursor.slice at h
  split at h
  · rename_i hshort
    simp only [Prod.mk.injEq, Except.error.injEq] at h
    rw [← h.1]
    exact ⟨c, .refl c, rfl, rfl, hshort⟩
  · simp at h

/-- A number of fixed size falls short where its bytes do. -/
theorem fallsShort_number {α : Type} {number : Bytes → α} {count : Nat} {c after : Cursor}
    {e : WireError}
    (h : (match c.slice count with
      | (.ok bytes, after) => (.ok (number bytes), after)
      | (.error e, after) => (.error e, after)) =
        ((.error e, after) : Except WireError α × Cursor)) : FallsShort c e := by
  split at h
  · simp at h
  · rename_i heq
    obtain ⟨rfl, rfl⟩ := h
    exact fallsShort_slice heq

theorem fallsShort_readValue {wireType : WireType} {c : Cursor} {e : WireError}
    (h : readValue wireType c = .error e) : FallsShort c e := by
  cases wireType with
  | varint =>
    simp only [readValue] at h
    split at h
    · simp at h
    · rename_i heq
      obtain rfl := Except.error.inj h
      exact fallsShort_varint heq
  | fixed64 =>
    simp only [readValue] at h
    split at h
    · simp at h
    · rename_i heq
      obtain rfl := Except.error.inj h
      exact fallsShort_number heq
  | fixed32 =>
    simp only [readValue] at h
    split at h
    · simp at h
    · rename_i heq
      obtain rfl := Except.error.inj h
      exact fallsShort_number heq
  | lengthDelimited =>
    simp only [readValue] at h
    split at h
    · rename_i heq
      obtain rfl := Except.error.inj h
      exact fallsShort_varint heq
    · rename_i n behind heq
      split at h
      · simp at h
      · rename_i heq'
        obtain rfl := Except.error.inj h
        exact .of_behind (behind_of_varint heq) (fallsShort_slice heq')

/-- The error names the start of the record, or falls short from there on. -/
def FailsFrom (c : Cursor) : WireError → Prop
  | .unknownWireType _ offset => offset = c.offset
  | .invalidFieldNumber offset => offset = c.offset
  | e => FallsShort c e

theorem FallsShort.failsFrom {c : Cursor} {e : WireError} (h : FallsShort c e) : FailsFrom c e := by
  cases e with
  | unknownWireType => exact h.elim
  | invalidFieldNumber => exact h.elim
  | exhausted => exact h
  | varintOverflow => exact h

theorem failsFrom_tag {c after : Cursor} {e : WireError} (h : c.tag = (.error e, after)) :
    FailsFrom c e := by
  unfold Cursor.tag at h
  split at h
  · rename_i heq
    simp only [Prod.mk.injEq, Except.error.injEq] at h
    rw [← h.1]
    exact (fallsShort_varint heq).failsFrom
  · split at h
    · simp only [Prod.mk.injEq, Except.error.injEq] at h
      rw [← h.1]
      rfl
    · split at h
      · simp at h
      · simp only [Prod.mk.injEq, Except.error.injEq] at h
        rw [← h.1]
        rfl

theorem failsFrom_readRecord {c : Cursor} {e : WireError} (h : readRecord c = .error e) :
    FailsFrom c e := by
  unfold readRecord at h
  split at h
  · rename_i heq
    obtain rfl := Except.error.inj h
    exact failsFrom_tag heq
  · rename_i heq
    split at h
    · simp at h
    · rename_i heq'
      obtain rfl := Except.error.inj h
      exact (FallsShort.of_behind (behind_of_tag heq) (fallsShort_readValue heq')).failsFrom

/-! ### Errors of a message -/

/-- In front of an error stand whole records, and then one that fails. -/
theorem exists_failing_record {c : Cursor} {e : WireError} (h : parseFrom c = .error e) :
    ∃ front back fields, c.rest = front ++ back ∧ back ≠ [] ∧ parseMessage front = .ok fields ∧
      readRecord ⟨c.offset + front.length, back⟩ = .error e := by
  induction hsize : c.rest.length using Nat.strongRecOn generalizing c with
  | ind size ih =>
    by_cases hnil : c.rest = []
    · obtain ⟨offset, rest⟩ := c
      subst hnil
      simp [parseFrom_nil] at h
    · cases hrecord : readRecord c with
      | error e' =>
        rw [parseFrom_of_error hnil hrecord] at h
        obtain rfl := Except.error.inj h
        exact ⟨[], c.rest, [], rfl, hnil, parseFrom_nil 0, hrecord⟩
      | ok r =>
        have hshorter := readRecord_length hrecord
        obtain ⟨taken, hrest, htaken⟩ := exists_isRecord hrecord
        have hafter : r.after.offset = c.offset + taken.length := by
          have hreads := htaken.reads c.offset r.after.rest
          rw [← hrest, hrecord] at hreads
          exact congrArg (Cursor.offset ·.after) (Except.ok.inj hreads)
        have herror : parseFrom r.after = .error e := by
          rw [parseFrom_of_ok hnil hrecord] at h
          cases hparse : parseFrom r.after with
          | ok fields => simp [hparse, Except.map] at h
          | error e' => simpa [hparse, Except.map] using h
        obtain ⟨front, back, fields, hsplit, hne, hfront, hfails⟩ :=
          ih r.after.rest.length (by omega) herror rfl
        refine ⟨taken ++ front, back, _, ?_, hne,
          parseMessage_append_ok htaken.parseMessage_eq hfront, ?_⟩
        · rw [hrest, hsplit, List.append_assoc]
        · rwa [List.length_append, ← Nat.add_assoc, ← hafter]

/-- The bytes in front of the place are a message, and the record that starts there fails. -/
structure FailsAt (bytes : Bytes) (place : Nat) (e : WireError) : Prop where
  inside : place < bytes.length
  front_reads : ∃ fields, parseMessage (bytes.take place) = .ok fields
  record_fails : readRecord ⟨place, bytes.drop place⟩ = .error e

/-- What the error says of the bytes, for a record that starts at the place. -/
def Locates (bytes : Bytes) (place : Nat) : WireError → Prop
  | .unknownWireType _ offset => offset = place
  | .invalidFieldNumber offset => offset = place
  | .varintOverflow offset =>
    place ≤ offset ∧ offset ≤ bytes.length ∧ RunsOn (bytes.drop offset)
  | .exhausted offset needed available =>
    place ≤ offset ∧ offset ≤ bytes.length ∧ offset + available = bytes.length ∧
      available < needed

theorem exists_failsAt {bytes : Bytes} {e : WireError} (h : parseMessage bytes = .error e) :
    ∃ place, FailsAt bytes place e := by
  obtain ⟨front, back, fields, hsplit, hne, hfront, hfails⟩ := exists_failing_record h
  have hbytes : bytes = front ++ back := hsplit
  have hpos := List.length_pos_of_ne_nil hne
  subst hbytes
  refine ⟨front.length, ?_, ⟨fields, ?_⟩, ?_⟩
  · rw [List.length_append]
    omega
  · rwa [List.take_left]
  · rw [List.drop_left]
    simpa only [Cursor.start, Nat.zero_add] using hfails

theorem Behind.of_drop {bytes : Bytes} {place : Nat} (hplace : place ≤ bytes.length)
    {after : Cursor} (h : Behind ⟨place, bytes.drop place⟩ after) :
    place ≤ after.offset ∧ after.offset + after.rest.length = bytes.length ∧
      bytes.drop after.offset = after.rest := by
  obtain ⟨taken, hsplit, hmoved⟩ := h
  have hrest : bytes.drop place = taken ++ after.rest := hsplit
  have hoffset : after.offset = place + taken.length := hmoved
  have hlength := congrArg List.length hrest
  rw [List.length_drop, List.length_append] at hlength
  refine ⟨by omega, by omega, ?_⟩
  rw [hoffset, ← List.drop_drop, hrest, List.drop_left]

theorem FailsAt.locates {bytes : Bytes} {place : Nat} {e : WireError} (h : FailsAt bytes place e) :
    Locates bytes place e := by
  have hplace := Nat.le_of_lt h.inside
  have hfails := failsFrom_readRecord h.record_fails
  cases e with
  | unknownWireType => exact hfails
  | invalidFieldNumber => exact hfails
  | varintOverflow offset =>
    obtain ⟨after, hbehind, rfl, hruns⟩ := hfails
    obtain ⟨hfrom, hlength, hdrop⟩ := hbehind.of_drop hplace
    exact ⟨hfrom, by omega, by rwa [hdrop]⟩
  | exhausted offset needed available =>
    obtain ⟨after, hbehind, rfl, rfl, hshort⟩ := hfails
    obtain ⟨hfrom, hlength, -⟩ := hbehind.of_drop hplace
    exact ⟨hfrom, by omega, hlength, hshort⟩

/--
Bytes that are no message are whole records up to a place, where a record starts that fails, and the
error tells that place, or one from there on where ten bytes run on or fewer bytes are left than are
needed.  However a reader is called on a buffer, it never is at fault and never behind the end.
-/
theorem parseMessage_located :
    (∀ bytes e, parseMessage bytes = .error e →
      ∃ place, FailsAt bytes place e ∧ Locates bytes place e) ∧
    ∀ bytes calls, ∃ answers after, (Buffer.start bytes).run calls = some (answers, after) ∧
      (Cursor.start bytes).run calls = (answers, after.cursor) ∧ after.bytes = bytes ∧
      after.position ≤ bytes.length ∧
      after.remaining? = some (bytes.length - after.position) := by
  refine ⟨?_, ?_⟩
  · intro bytes e h
    obtain ⟨place, hfails⟩ := exists_failsAt h
    exact ⟨place, hfails, hfails.locates⟩
  · intro bytes calls
    have hstart : (Buffer.start bytes).position ≤ (Buffer.start bytes).bytes.length :=
      Nat.zero_le bytes.length
    obtain ⟨answers, after, hrun, hcursor, hbytes, -, hend⟩ := Buffer.run_agrees calls hstart
    have hinside : after.position ≤ after.bytes.length := by rwa [hbytes]
    refine ⟨answers, after, hrun, hcursor, hbytes, hend, ?_⟩
    rw [Buffer.remaining?_eq hinside, hbytes]
    rfl

/-- A nested message that breaks off is no failure; the record behind it lacks a byte. -/
theorem parseMessage_located_slice :
    let bytes : Bytes := [0x12, 0x02, 0x0a, 0x05, 0x1a, 0x02, 0x61]
    parseMessage bytes = .error (.exhausted 6 2 1) ∧
      ∃ place, FailsAt bytes place (.exhausted 6 2 1) ∧ place ≤ 6 ∧ 6 + 1 = bytes.length := by
  intro bytes
  have herror : parseMessage bytes = .error (.exhausted 6 2 1) := by cbv
  obtain ⟨place, hfails, hfrom, -, hlength, -⟩ := parseMessage_located.1 bytes _ herror
  exact ⟨herror, place, hfails, hfrom, hlength⟩

end TrackerTraffic.Wire
