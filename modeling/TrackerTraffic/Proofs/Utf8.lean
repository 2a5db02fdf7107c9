import Mathlib
import TrackerTraffic.Text.Utf8

/-!
# Reading UTF-8 encodings

The bytes of a character are a first byte and up to three tails, in ranges that make each
character's bytes the only ones for it.  Both readers read them as the character, whatever stands
behind, and the strict reader reads nothing else.
-/

namespace TrackerTraffic.Utf8

/-! ### Bytes and their numbers -/

theorem byte_toNat {n : Nat} (h : n < 256) : (byte n).toNat = n := by
  rw [byte, UInt8.toNat_ofNat']
  omega

theorem byte_eq {b : UInt8} {n : Nat} (h : n = b.toNat) : byte n = b := by
  rw [byte, h, UInt8.ofNat_toNat]

theorem toNat_ofNat {n : Nat} (h : n.isValidChar) : (Char.ofNat n).toNat = n := by
  rw [Char.toNat_ofNat, if_pos h]

theorem char_bounds (c : Char) : c.toNat < 0xD800 ∨ 0xDFFF < c.toNat ∧ c.toNat < 0x110000 := c.valid

theorem encodeChar_ascii {c : Char} (h : c.toNat < 0x80) : encodeChar c = [byte c.toNat] := by
  rw [encodeChar, if_pos h]

theorem isTail_iff {b : UInt8} : isTail b = true ↔ 0x80 ≤ b.toNat ∧ b.toNat < 0xC0 := by
  simp [isTail]

theorem isTail_byte (n : Nat) : isTail (byte (0x80 + n % 64)) = true := by
  have hb : (byte (0x80 + n % 64)).toNat = 0x80 + n % 64 := byte_toNat (by omega)
  rw [isTail_iff, hb]
  omega

theorem fitsThree_iff {a b : UInt8} : fitsThree a b = true ↔
    (0x80 ≤ b.toNat ∧ b.toNat < 0xC0) ∧ (a.toNat = 0xE0 → 0xA0 ≤ b.toNat) ∧
      (a.toNat = 0xED → b.toNat < 0xA0) := by
  simp only [fitsThree, Bool.and_eq_true, decide_eq_true_eq]
  split_ifs <;> omega

theorem fitsFour_iff {a b : UInt8} : fitsFour a b = true ↔
    (0x80 ≤ b.toNat ∧ b.toNat < 0xC0) ∧ (a.toNat = 0xF0 → 0x90 ≤ b.toNat) ∧
      (a.toNat = 0xF4 → b.toNat < 0x90) := by
  simp only [fitsFour, Bool.and_eq_true, decide_eq_true_eq]
  split_ifs <;> omega

/-! ### The bytes of a character -/

/-- The bytes encode the character: by itself, or in a first byte and tails. -/
inductive Encodes : Bytes → Char → Prop
  | one {a : UInt8} : a.toNat < 0x80 → Encodes [a] (Char.ofNat a.toNat)
  | two {a b : UInt8} : 0xC2 ≤ a.toNat → a.toNat < 0xE0 → isTail b = true →
      Encodes [a, b] (char2 a b)
  | three {a b c : UInt8} : 0xE0 ≤ a.toNat → a.toNat < 0xF0 → fitsThree a b = true →
      isTail c = true → Encodes [a, b, c] (char3 a b c)
  | four {a b c d : UInt8} : 0xF0 ≤ a.toNat → a.toNat < 0xF5 → fitsFour a b = true →
      isTail c = true → isTail d = true → Encodes [a, b, c, d] (char4 a b c d)

theorem encodes_encodeChar (c : Char) : Encodes (encodeChar c) c := by
  have hbounds := char_bounds c
  have hchar : Char.ofNat c.toNat = c := Char.ofNat_toNat c
  generalize hn : c.toNat = n at hbounds hchar
  have htail : (byte (0x80 + n % 64)).toNat = 0x80 + n % 64 := byte_toNat (by omega)
  have hmiddle : (byte (0x80 + n / 64 % 64)).toNat = 0x80 + n / 64 % 64 := byte_toNat (by omega)
  rw [encodeChar, hn]
  -- the encoding has one, two, three or four bytes
  split_ifs with h1 h2 h3
  · have ha : (byte n).toNat = n := byte_toNat (by omega)
    have hone : Encodes [byte n] (Char.ofNat (byte n).toNat) := .one (by omega)
    rwa [ha, hchar] at hone
  · have ha : (byte (0xC0 + n / 64)).toNat = 0xC0 + n / 64 := byte_toNat (by omega)
    have hvalue : (0xC0 + n / 64 - 0xC0) * 64 + (0x80 + n % 64 - 0x80) = n := by omega
    have htwo : Encodes [byte (0xC0 + n / 64), byte (0x80 + n % 64)] _ :=
      .two (by omega) (by omega) (isTail_byte n)
    rwa [char2, ha, htail, hvalue, hchar] at htwo
  · have ha : (byte (0xE0 + n / 4096)).toNat = 0xE0 + n / 4096 := byte_toNat (by omega)
    have hfits : fitsThree (byte (0xE0 + n / 4096)) (byte (0x80 + n / 64 % 64)) = true := by
      rw [fitsThree_iff, ha, hmiddle]
      omega
    have hvalue : (0xE0 + n / 4096 - 0xE0) * 4096 + (0x80 + n / 64 % 64 - 0x80) * 64 +
        (0x80 + n % 64 - 0x80) = n := by omega
    have hthree := Encodes.three (by omega) (by omega) hfits (isTail_byte n)
    rwa [char3, ha, hmiddle, htail, hvalue, hchar] at hthree
  · have ha : (byte (0xF0 + n / 262144)).toNat = 0xF0 + n / 262144 := byte_toNat (by omega)
    have hsecond : (byte (0x80 + n / 4096 % 64)).toNat = 0x80 + n / 4096 % 64 :=
      byte_toNat (by omega)
    have hfits : fitsFour (byte (0xF0 + n / 262144)) (byte (0x80 + n / 4096 % 64)) = true := by
      rw [fitsFour_iff, ha, hsecond]
      omega
    have hvalue : (0xF0 + n / 262144 - 0xF0) * 262144 + (0x80 + n / 4096 % 64 - 0x80) * 4096 +
        (0x80 + n / 64 % 64 - 0x80) * 64 + (0x80 + n % 64 - 0x80) = n := by omega
    have hfour := Encodes.four (by omega) (by omega) hfits (isTail_byte (n / 64)) (isTail_byte n)
    rwa [char4, ha, hsecond, hmiddle, htail, hvalue, hchar] at hfour

/-- A character has no other bytes than those that are written for it. -/
theorem Encodes.eq_encodeChar {bytes : Bytes} {c : Char} (h : Encodes bytes c) :
    bytes = encodeChar c := by
  cases h with
  | @one a h =>
    have hvalue : (Char.ofNat a.toNat).toNat = a.toNat := toNat_ofNat (.inl (by omega))
    rw [encodeChar, hvalue, if_pos h, byte_eq rfl]
  | @two a b hlow hhigh hb =>
    rw [isTail_iff] at hb
    have hvalue : (char2 a b).toNat = (a.toNat - 0xC0) * 64 + (b.toNat - 0x80) :=
      toNat_ofNat (.inl (by omega))
    rw [encodeChar, hvalue, if_neg (by omega), if_pos (by omega), byte_eq (b := a) (by omega),
      byte_eq (b := b) (by omega)]
  | @three a b c hlow hhigh hb hc =>
    rw [fitsThree_iff] at hb
    rw [isTail_iff] at hc
    have hvalid : Nat.isValidChar
        ((a.toNat - 0xE0) * 4096 + (b.toNat - 0x80) * 64 + (c.toNat - 0x80)) := by
      unfold Nat.isValidChar
      omega
    have hvalue : (char3 a b c).toNat = _ := toNat_ofNat hvalid
    rw [encodeChar, hvalue, if_neg (by omega), if_neg (by omega), if_pos (by omega),
      byte_eq (b := a) (by omega), byte_eq (b := b) (by omega), byte_eq (b := c) (by omega)]
  | @four a b c d hlow hhigh hb hc hd =>
    rw [fitsFour_iff] at hb
    rw [isTail_iff] at hc hd
    have hvalid : Nat.isValidChar ((a.toNat - 0xF0) * 262144 + (b.toNat - 0x80) * 4096 +
        (c.toNat - 0x80) * 64 + (d.toNat - 0x80)) := by
      unfold Nat.isValidChar
      omega
    have hvalue : (char4 a b c d).toNat = _ := toNat_ofNat hvalid
    rw [encodeChar, hvalue, if_neg (by omega), if_neg (by omega), if_neg (by omega),
      byte_eq (b := a) (by omega), byte_eq (b := b) (by omega), byte_eq (b := c) (by omega),
      byte_eq (b := d) (by omega)]

/-! ### One character of a reader -/

section Readers

variable {bytes : Bytes} {c : Char}

/-- The bytes of a character in front of any bytes read as the character. -/
theorem Encodes.decodeLossy_append (h : Encodes bytes c) (rest : Bytes) :
    decodeLossy (bytes ++ rest) = c :: decodeLossy rest := by
  cases h with
  | one h1 =>
    rw [List.singleton_append, decodeLossy.eq_def]
    simp only [if_pos h1]
  | @two a b hlow hhigh hb =>
    have h1 : ¬ a.toNat < 0x80 := by omega
    have h2 : ¬ a.toNat < 0xC2 := by omega
    rw [List.cons_append, List.singleton_append, decodeLossy.eq_def]
    simp only [if_neg h1, if_neg h2, if_pos hhigh, if_pos hb]
  | @three a b c hlow hhigh hb hc =>
    have h1 : ¬ a.toNat < 0x80 := by omega
    have h2 : ¬ a.toNat < 0xC2 := by omega
    have h3 : ¬ a.toNat < 0xE0 := by omega
    rw [List.cons_append, List.cons_append, List.singleton_append, decodeLossy.eq_def]
    simp only [if_neg h1, if_neg h2, if_neg h3, if_pos hhigh, if_pos hb, if_pos hc]
  | @four a b c d hlow hhigh hb hc hd =>
    have h1 : ¬ a.toNat < 0x80 := by omega
    have h2 : ¬ a.toNat < 0xC2 := by omega
    have h3 : ¬ a.toNat < 0xE0 := by omega
    have h4 : ¬ a.toNat < 0xF0 := by omega
    rw [List.cons_append, List.cons_append, List.cons_append, List.singleton_append,
      decodeLossy.eq_def]
    simp only [if_neg h1, if_neg h2, if_neg h3, if_neg h4, if_pos hhigh, if_pos hb, if_pos hc,
      if_pos hd]

theorem Encodes.decode?_append (h : Encodes bytes c) (rest : Bytes) :
    decode? (bytes ++ rest) = (decode? rest).map (c :: ·) := by
  cases h with
  | one h1 =>
    rw [List.singleton_append, decode?.eq_def]
    simp only [if_pos h1]
  | @two a b hlow hhigh hb =>
    have h1 : ¬ a.toNat < 0x80 := by omega
    have h2 : ¬ a.toNat < 0xC2 := by omega
    rw [List.cons_append, List.singleton_append, decode?.eq_def]
    simp only [if_neg h1, if_neg h2, if_pos hhigh, if_pos hb]
  | @three a b c hlow hhigh hb hc =>
    have h1 : ¬ a.toNat < 0x80 := by omega
    have h2 : ¬ a.toNat < 0xC2 := by omega
    have h3 : ¬ a.toNat < 0xE0 := by omega
    rw [List.cons_append, List.cons_append, List.singleton_append, decode?.eq_def]
    simp only [if_neg h1, if_neg h2, if_neg h3, if_pos hhigh, hb, hc, Bool.and_self, if_true]
  | @four a b c d hlow hhigh hb hc hd =>
    have h1 : ¬ a.toNat < 0x80 := by omega
    have h2 : ¬ a.toNat < 0xC2 := by omega
    have h3 : ¬ a.toNat < 0xE0 := by omega
    have h4 : ¬ a.toNat < 0xF0 := by omega
    rw [List.cons_append, List.cons_append, List.cons_append, List.singleton_append,
      decode?.eq_def]
    simp only [if_neg h1, if_neg h2, if_neg h3, if_neg h4, if_pos hhigh, hb, hc, hd, Bool.and_self,
      if_true]

end Readers

/-! ### Texts -/

theorem encode_cons (c : Char) (cs : List Char) : encode (c :: cs) = encodeChar c ++ encode cs :=
  List.flatMap_cons

theorem decodeLossy_encode (cs : List Char) : decodeLossy (encode cs) = cs := by
  induction cs with
  | nil => rfl
  | cons c rest ih => rw [encode_cons, (encodes_encodeChar c).decodeLossy_append, ih]

theorem decode?_encode (cs : List Char) : decode? (encode cs) = some cs := by
  induction cs with
  | nil => rfl
  | cons c rest ih =>
    rw [encode_cons, (encodes_encodeChar c).decode?_append, ih, Option.map_some]

theorem Encodes.append_eq_encode {front rest : Bytes} {c : Char} {cs : List Char}
    (hfront : Encodes front c) (hrest : ∀ {later}, decode? rest = some later → rest = encode later)
    (hread : (decode? rest).map (c :: ·) = some cs) : front ++ rest = encode cs := by
  obtain ⟨later, hlater, rfl⟩ := Option.map_eq_some_iff.1 hread
  rw [encode_cons, hrest hlater, hfront.eq_encodeChar]

/-- The strict reader reads nothing but what was written. -/
theorem eq_encode_of_decode? {bytes : Bytes} {cs : List Char} (h : decode? bytes = some cs) :
    bytes = encode cs := by
  -- each branch that goes on has tested that the bytes it takes encode a character
  fun_induction decode? bytes generalizing cs with
  | case1 =>
    obtain rfl := Option.some.inj h
    rfl
  | case2 a rest h1 ih => exact Encodes.append_eq_encode (.one h1) ih h
  | case4 a _ h2 hhigh b rest hb ih =>
    exact Encodes.append_eq_encode (.two (Nat.not_lt.1 h2) hhigh hb) ih h
  | case7 a _ _ h3 hhigh b c rest hfits ih =>
    obtain ⟨hb, hc⟩ := (Bool.and_eq_true _ _).mp hfits
    exact Encodes.append_eq_encode (.three (Nat.not_lt.1 h3) hhigh hb hc) ih h
  | case10 a _ _ _ h4 hhigh b c d rest hfits ih =>
    obtain ⟨hfirst, hd⟩ := (Bool.and_eq_true _ _).mp hfits
    obtain ⟨hb, hc⟩ := (Bool.and_eq_true _ _).mp hfirst
    exact Encodes.append_eq_encode (.four (Nat.not_lt.1 h4) hhigh hb hc hd) ih h
  | _ => cases h

theorem decode?_eq_some_iff {bytes : Bytes} {cs : List Char} :
    decode? bytes = some cs ↔ bytes = encode cs := by
  constructor
  · exact eq_encode_of_decode?
  · rintro rfl
    exact decode?_encode cs

end TrackerTraffic.Utf8
