import TrackerTraffic.Proofs.Utf8
import TrackerTraffic.QueryString.Form

/-!
# Reading form encoded pairs

Written pairs read back: no sign that separates parts occurs inside a written
part, and each written byte reads as that byte whatever stands behind it.
-/

namespace TrackerTraffic

/-! ### Cutting -/

theorem CodeTable.cutAt_eq_splitOn (separator : Char) (cs : List Char) :
    cutAt separator cs = cs.splitOn separator := by
  induction cs with
  | nil => rfl
  | cons c rest ih =>
    rw [cutAt, List.splitOn_cons_eq_if_modifyHead, ih]
    by_cases hc : c = separator
    · rw [if_pos hc, if_pos (by simpa using hc)]
    · rw [if_neg hc, if_neg (by simpa using hc)]
      obtain ⟨first, others, hcons⟩ :=
        List.exists_cons_of_ne_nil (List.splitOn_ne_nil separator rest)
      rw [hcons]
      rfl

theorem Form.takeWhile_ne_append {c : Char} {front : List Char} (h : c ∉ front)
    (rest : List Char) : (front ++ c :: rest).takeWhile (· != c) = front := by
  have hfront : ∀ d ∈ front, (d != c) = true := by
    intro d hd
    have hne : d ≠ c := fun heq => h (heq ▸ hd)
    simpa using hne
  rw [List.takeWhile_append_of_pos hfront]
  simp

theorem Form.dropWhile_ne_append {c : Char} {front : List Char} (h : c ∉ front)
    (rest : List Char) : (front ++ c :: rest).dropWhile (· != c) = c :: rest := by
  have hfront : ∀ d ∈ front, (d != c) = true := by
    intro d hd
    have hne : d ≠ c := fun heq => h (heq ▸ hd)
    simpa using hne
  rw [List.dropWhile_append_of_pos hfront]
  simp

/-! ### Percent encoding -/

namespace Percent

theorem decode_plain {b : UInt8} (h : b.toNat ≠ 0x25) (rest : Bytes) :
    decode (b :: rest) = b :: decode rest := by
  rw [decode.eq_def]
  simp only [if_neg h]

theorem decode_escape {b h l : UInt8} {m n : Nat} (hb : b.toNat = 0x25) (hm : digit? h = some m)
    (hn : digit? l = some n) (rest : Bytes) :
    decode (b :: h :: l :: rest) = UInt8.ofNat (m * 16 + n) :: decode rest := by
  rw [decode.eq_def]
  simp only [if_pos hb, hm, hn]

theorem ascii_of_hexValue? {c : Char} {n : Nat} (h : Text.hexValue? c = some n) :
    c.toNat < 0x80 := by
  have hbound : ∀ d : Char, d.toNat < 0x80 → c ≤ d → c.toNat < 0x80 :=
    fun d hd hle => Nat.lt_of_le_of_lt hle hd
  unfold Text.hexValue? at h
  split_ifs at h with hdigit hlower hupper
  · exact hbound '9' (by decide) hdigit.2
  · exact hbound 'f' (by decide) hlower.2
  · exact hbound 'F' (by decide) hupper.2

/-- The byte of a hexadecimal digit has the digit's value. -/
theorem digit?_byte {c : Char} {n : Nat} (h : Text.hexValue? c = some n) :
    digit? (Utf8.byte c.toNat) = some n := by
  have hbyte := Utf8.byte_toNat (n := c.toNat) ((ascii_of_hexValue? h).trans (by decide))
  rw [digit?, hbyte, Char.ofNat_toNat, h]

theorem hexValue?_upperHexDigit {n : Nat} (h : n < 16) :
    Text.hexValue? (Text.upperHexDigit n) = some n := by
  have hall : ∀ n < 16, Text.hexValue? (Text.upperHexDigit n) = some n := by decide
  exact hall n h

end Percent

namespace Form

/-! ### Written bytes -/

/-- The signs that mean something in a form, besides those for spaces and escapes. -/
def isSeparator (c : Char) : Bool := c == '&' || c == '=' || c == '?'

theorem isSeparator_eq_false {c : Char} :
    isSeparator c = false ↔ c ≠ '&' ∧ c ≠ '=' ∧ c ≠ '?' := by
  simp [isSeparator, and_assoc]

/-- What is written as it is: ASCII, and no sign with a meaning. -/
theorem plain_spec {b : UInt8} (h : isPlain b = true) :
    b.toNat < 0x80 ∧ b.toNat ≠ 0x25 ∧ Char.ofNat b.toNat ≠ '+' ∧
      isSeparator (Char.ofNat b.toNat) = false := by
  have hall : ∀ n < 256, isPlain (UInt8.ofNat n) = true → n < 0x80 ∧ n ≠ 0x25 ∧
      Char.ofNat n ≠ '+' ∧ isSeparator (Char.ofNat n) = false := by decide +kernel
  exact hall b.toNat b.toNat_lt (by rwa [UInt8.ofNat_toNat])

theorem digit_spec {n : Nat} (h : n < 16) :
    unplus (Text.upperHexDigit n) = Text.upperHexDigit n ∧
      isSeparator (Text.upperHexDigit n) = false := by
  have hall : ∀ n < 16, unplus (Text.upperHexDigit n) = Text.upperHexDigit n ∧
      isSeparator (Text.upperHexDigit n) = false := by decide
  exact hall n h

/-- ASCII characters are one byte each in the reader's eyes. -/
theorem encode_ascii_cons {c : Char} (h : c.toNat < 0x80) (hplus : unplus c = c)
    (rest : List Char) :
    Utf8.encode ((c :: rest).map unplus) =
      Utf8.byte c.toNat :: Utf8.encode (rest.map unplus) := by
  rw [List.map_cons, hplus, Utf8.encode, List.flatMap_cons, Utf8.encodeChar_ascii h]
  rfl

/-- A written byte reads as the byte, whatever stands behind it. -/
theorem decode_encodeByte (b : UInt8) (rest : List Char) :
    Percent.decode (Utf8.encode ((encodeByte b ++ rest).map unplus)) =
      b :: Percent.decode (Utf8.encode (rest.map unplus)) := by
  have hlt := b.toNat_lt
  unfold encodeByte
  split
  · rename_i hspace
    have hb : b = 0x20 := UInt8.toNat_inj.1 hspace
    rw [hb]
    exact Percent.decode_plain (by decide) _
  · split
    · rename_i hplain
      obtain ⟨hascii, hpercent, hplus, -⟩ := plain_spec hplain
      have hvalue := Utf8.toNat_ofNat (n := b.toNat) (.inl (by omega))
      have hbyte : Utf8.byte b.toNat = b := UInt8.ofNat_toNat
      rw [List.singleton_append, encode_ascii_cons (by omega) (if_neg hplus), hvalue, hbyte]
      exact Percent.decode_plain hpercent _
    · -- `%` and the two digits of the byte
      have hhigh : b.toNat / 16 < 16 := by omega
      have hlow : b.toNat % 16 < 16 := by omega
      have hfirst := Percent.hexValue?_upperHexDigit hhigh
      have hsecond := Percent.hexValue?_upperHexDigit hlow
      have hpercent : Utf8.encode (('%' :: Text.upperHexDigit (b.toNat / 16) ::
          Text.upperHexDigit (b.toNat % 16) :: rest).map unplus) =
          0x25 :: Utf8.byte (Text.upperHexDigit (b.toNat / 16)).toNat ::
            Utf8.byte (Text.upperHexDigit (b.toNat % 16)).toNat ::
              Utf8.encode (rest.map unplus) := by
        rw [encode_ascii_cons (by decide) (by decide),
          encode_ascii_cons (Percent.ascii_of_hexValue? hfirst) (digit_spec hhigh).1,
          encode_ascii_cons (Percent.ascii_of_hexValue? hsecond) (digit_spec hlow).1]
        rfl
      have hvalue : b.toNat / 16 * 16 + b.toNat % 16 = b.toNat := by omega
      simp only [Percent.escape, List.cons_append, List.nil_append]
      rw [hpercent, Percent.decode_escape rfl (Percent.digit?_byte hfirst)
        (Percent.digit?_byte hsecond), hvalue, UInt8.ofNat_toNat]

theorem isSeparator_of_mem_encodeByte {b : UInt8} {c : Char} (h : c ∈ encodeByte b) :
    isSeparator c = false := by
  have hlt := b.toNat_lt
  unfold encodeByte at h
  split at h
  · rw [List.mem_singleton.1 h]
    rfl
  · split at h
    · rename_i hplain
      rw [List.mem_singleton.1 h]
      exact (plain_spec hplain).2.2.2
    · simp only [Percent.escape, List.mem_cons, List.not_mem_nil, or_false] at h
      rcases h with h | h | h
      · rw [h]
        rfl
      · rw [h]
        exact (digit_spec (by omega)).2
      · rw [h]
        exact (digit_spec (by omega)).2

/-! ### Written parts and pairs -/

theorem decode_encodePart (cs : List Char) : decodePart (encodePart cs) = cs := by
  have hbytes : ∀ bytes : Bytes,
      Percent.decode (Utf8.encode ((bytes.flatMap encodeByte).map unplus)) = bytes := by
    intro bytes
    induction bytes with
    | nil => rfl
    | cons b rest ih => rw [List.flatMap_cons, decode_encodeByte, ih]
  rw [decodePart, encodePart, hbytes, Utf8.decodeLossy_encode]

theorem isSeparator_of_mem_encodePart {cs : List Char} {c : Char} (h : c ∈ encodePart cs) :
    isSeparator c = false := by
  obtain ⟨b, -, hc⟩ := List.mem_flatMap.1 h
  exact isSeparator_of_mem_encodeByte hc

theorem decode_encodePair (pair : List Char × List Char) : decodePair (encodePair pair) = pair := by
  have hname : '=' ∉ encodePart pair.1 :=
    fun h => (isSeparator_eq_false.1 (isSeparator_of_mem_encodePart h)).2.1 rfl
  rw [decodePair, encodePair, takeWhile_ne_append hname, dropWhile_ne_append hname, List.drop_one,
    List.tail_cons, decode_encodePart, decode_encodePart]

theorem mem_encodePair {pair : List Char × List Char} {c : Char} (h : c ∈ encodePair pair) :
    c ≠ '&' ∧ c ≠ '?' := by
  have hpart : ∀ cs, c ∈ encodePart cs → c ≠ '&' ∧ c ≠ '?' := by
    intro cs hc
    have hseparator := isSeparator_eq_false.1 (isSeparator_of_mem_encodePart hc)
    exact ⟨hseparator.1, hseparator.2.2⟩
  rw [encodePair, List.mem_append, List.mem_cons] at h
  rcases h with h | h | h
  · exact hpart _ h
  · rw [h]
    decide
  · exact hpart _ h

theorem encodePair_ne_nil (pair : List Char × List Char) : encodePair pair ≠ [] := by
  simp [encodePair]

theorem decode_encode (pairs : List (List Char × List Char)) : decode (encode pairs) = pairs := by
  by_cases hnil : pairs = []
  · rw [hnil]
    rfl
  · have hparts : pairs.map encodePair ≠ [] := by simpa using hnil
    have hcut : CodeTable.cutAt '&' (encode pairs) = pairs.map encodePair := by
      rw [CodeTable.cutAt_eq_splitOn, encode]
      refine List.splitOn_intercalate '&' ?_ hparts
      intro part hpart hmem
      obtain ⟨pair, -, hpair⟩ := List.mem_map.1 hpart
      rw [← hpair] at hmem
      exact (mem_encodePair hmem).1 rfl
    have hkept : (pairs.map encodePair).filter (!·.isEmpty) = pairs.map encodePair := by
      rw [List.filter_eq_self]
      intro part hpart
      obtain ⟨pair, -, hpair⟩ := List.mem_map.1 hpart
      rw [← hpair]
      simpa using encodePair_ne_nil pair
    rw [decode, hcut, hkept, List.map_map]
    exact (List.map_congr_left fun pair _ => decode_encodePair pair).trans (List.map_id pairs)

theorem not_mem_encode (pairs : List (List Char × List Char)) : '?' ∉ encode pairs := by
  induction pairs with
  | nil => simp [encode]
  | cons pair rest ih =>
    have hpair : '?' ∉ encodePair pair := fun h => (mem_encodePair h).2 rfl
    by_cases hnil : rest = []
    · rw [hnil, encode, List.map_singleton, List.intercalate_singleton]
      exact hpair
    · have hparts : rest.map encodePair ≠ [] := by simpa using hnil
      rw [encode, List.map_cons, List.intercalate_cons_of_ne_nil hparts]
      simp only [List.mem_append, List.mem_singleton, not_or]
      exact ⟨⟨hpair, by decide⟩, ih⟩

end Form

end TrackerTraffic
