import TrackerTraffic.Proofs.TextRepair

/-!
# Bytes under percent encoding

However bytes are percent encoded, decoding finds them again and makes them a text.  The functions
that want bytes read the same ones in that text, unless they were the encoding of a text that looks
like a binary string: its characters are then taken for the bytes.
-/

namespace TrackerTraffic

/-! ### Spellings of bytes -/

namespace Percent

/-- The text spells the bytes: each of them by `%` and two digits of either case, or a letter or
digit by itself. -/
inductive Spells : List Char → Bytes → Prop
  | nil : Spells [] []
  | plain {b : UInt8} {text : List Char} {bytes : Bytes} :
      notAlphanumeric b = false → Spells text bytes →
        Spells (Char.ofNat b.toNat :: text) (b :: bytes)
  | escaped {b : UInt8} {high low : Char} {text : List Char} {bytes : Bytes} :
      Text.hexValue? high = some (b.toNat / 16) → Text.hexValue? low = some (b.toNat % 16) →
        Spells text bytes → Spells ('%' :: high :: low :: text) (b :: bytes)

theorem plain_spec {b : UInt8} (h : notAlphanumeric b = false) :
    b.toNat < 0x80 ∧ b.toNat ≠ 0x25 := by
  have hall : ∀ n < 256, notAlphanumeric (UInt8.ofNat n) = false → n < 0x80 ∧ n ≠ 0x25 := by
    decide +kernel
  exact hall b.toNat b.toNat_lt (by rwa [UInt8.ofNat_toNat])

theorem decodeText_of_spells {text : List Char} {bytes : Bytes} (h : Spells text bytes) :
    decodeText text = bytes := by
  induction h with
  | nil => rfl
  | @plain b text bytes hplain _ ih =>
    obtain ⟨hascii, hpercent⟩ := plain_spec hplain
    have hchar := Binary.toNat_ofNat_byte b
    rw [decodeText, Utf8.encode_cons, Utf8.encodeChar_ascii (by omega), hchar, Utf8.byte_eq rfl,
      List.singleton_append, decode_plain hpercent]
    exact congrArg (b :: ·) ih
  | @escaped b high low text bytes hhigh hlow _ ih =>
    have hvalue : b.toNat / 16 * 16 + b.toNat % 16 = b.toNat := Nat.div_add_mod' _ _
    rw [decodeText, Utf8.encode_cons, Utf8.encode_cons, Utf8.encode_cons,
      Utf8.encodeChar_ascii (by decide), Utf8.encodeChar_ascii (ascii_of_hexValue? hhigh),
      Utf8.encodeChar_ascii (ascii_of_hexValue? hlow), List.singleton_append,
      List.singleton_append, List.singleton_append,
      decode_escape (by decide) (digit?_byte hhigh) (digit?_byte hlow), hvalue, UInt8.ofNat_toNat]
    exact congrArg (b :: ·) ih

/-- Escaping all that is no letter or digit spells the bytes. -/
theorem spells_encodeBytes (bytes : Bytes) : Spells (encodeBytes notAlphanumeric bytes) bytes := by
  induction bytes with
  | nil => exact .nil
  | cons b rest ih =>
    have hlt := b.toNat_lt
    rw [encodeBytes, List.flatMap_cons, ← encodeBytes]
    split_ifs with hplain
    · simp only [Bool.and_eq_true, Bool.not_eq_true'] at hplain
      exact .plain hplain.2 ih
    · exact .escaped (hexValue?_upperHexDigit (by omega)) (hexValue?_upperHexDigit (by omega)) ih

end Percent

/-! ### Bytes of texts -/

namespace Utf8

theorem encode_injective : Function.Injective encode := by
  intro cs ds h
  have hread := decode?_encode cs
  rw [h, decode?_encode] at hread
  exact (Option.some.inj hread).symm

theorem one_le_length_encodeChar (c : Char) : 1 ≤ (encodeChar c).length := by
  unfold encodeChar
  dsimp only
  split_ifs <;> simp

theorem two_le_length_encodeChar {c : Char} (h : ¬ c.toNat < 0x80) :
    2 ≤ (encodeChar c).length := by
  unfold encodeChar
  dsimp only
  split_ifs <;> simp

theorem length_le_encode (cs : List Char) : cs.length ≤ (encode cs).length := by
  induction cs with
  | nil => exact Nat.le_refl 0
  | cons c rest ih =>
    have hone := one_le_length_encodeChar c
    rw [encode_cons, List.length_append, List.length_cons]
    omega

end Utf8

namespace Binary

/-- One byte for each character is the encoding of ASCII text only. -/
theorem map_byte_eq_encode_iff {cs : List Char} :
    (cs.map fun c => UInt8.ofNat c.toNat) = Utf8.encode cs ↔ isAscii cs = true := by
  induction cs with
  | nil => exact ⟨fun _ => rfl, fun _ => rfl⟩
  | cons c rest ih =>
    have hsplit : isAscii (c :: rest) = true ↔ c.toNat < 0x80 ∧ isAscii rest = true := by
      simp [isAscii]
    rw [hsplit, ← ih, Utf8.encode_cons, List.map_cons]
    by_cases hc : c.toNat < 0x80
    · rw [Utf8.encodeChar_ascii hc, List.singleton_append, Utf8.byte, List.cons_inj_right]
      exact ⟨fun h => ⟨hc, h⟩, fun h => h.2⟩
    · refine ⟨fun h => ?_, fun h => absurd h.1 hc⟩
      have hlength := congrArg List.length h
      have htwo := Utf8.two_le_length_encodeChar hc
      have hrest := Utf8.length_le_encode rest
      simp only [List.length_cons, List.length_append, List.length_map] at hlength
      omega

/-- The bytes of a text are its encoding, unless it looks like a binary string and is not ASCII. -/
theorem toBytes_eq_encode_iff {cs : List Char} :
    toBytes cs = Utf8.encode cs ↔ ¬ (isAscii cs = false ∧ isBinary cs = true) := by
  rw [toBytes]
  by_cases hbinary : isBinary cs = true
  · rw [if_pos hbinary, map_byte_eq_encode_iff]
    simp [hbinary]
  · rw [if_neg hbinary]
    simp [hbinary]

theorem textOfBytes_of_not_encode {bytes : Bytes} (h : ∀ cs, bytes ≠ Utf8.encode cs) :
    textOfBytes bytes = ofBytes bytes := by
  have hread : Utf8.decode? bytes = none :=
    Option.eq_none_iff_forall_ne_some.2 fun cs hcs => h cs (Utf8.eq_encode_of_decode? hcs)
  rw [textOfBytes, hread, Option.getD_none]

/-- The bytes that a text is made of are found in it again, unless they encode a text that looks
like a binary string. -/
theorem toBytes_textOfBytes_iff {bytes : Bytes} : toBytes (textOfBytes bytes) = bytes ↔
    ¬ ∃ cs, bytes = Utf8.encode cs ∧ isAscii cs = false ∧ isBinary cs = true := by
  by_cases htext : ∃ cs, bytes = Utf8.encode cs
  · obtain ⟨cs, rfl⟩ := htext
    rw [textOfBytes_encode, toBytes_eq_encode_iff, not_iff_not]
    constructor
    · intro h
      exact ⟨cs, rfl, h⟩
    · rintro ⟨ds, hds, h⟩
      rwa [Utf8.encode_injective hds]
  · rw [textOfBytes_of_not_encode (not_exists.1 htext)]
    refine ⟨fun _ => ?_, fun _ => toBytes_ofBytes bytes⟩
    rintro ⟨cs, hcs, -⟩
    exact htext ⟨cs, hcs⟩

end Binary

/-! ### Decoded steps -/

namespace StepFunction

theorem decodeUrl_of_spells {u : String} {bytes : Bytes} (h : Percent.Spells u.toList bytes) :
    decodeUrl.apply (.string u) = .ok (.string (String.ofList (Binary.textOfBytes bytes))) := by
  show Except.ok (Json.string (percentDecoded u)) = _
  rw [percentDecoded, Percent.decodeText_of_spells h]

/-- However bytes are percent encoded, decoding gives the text that they encode, or else their
binary string.  The functions on bytes find these bytes again, unless they encode a text beyond
ASCII without a character beyond U+00FF; and a text that was encoded comes back as it was. -/
theorem decodeUrl_keeps_bytes :
    (∀ (bytes : Bytes) (u : String), Percent.Spells u.toList bytes → ∃ t : String,
      decodeUrl.apply (.string u) = .ok (.string t) ∧
      (∀ cs, bytes = Utf8.encode cs → t.toList = cs) ∧
      ((∀ cs, bytes ≠ Utf8.encode cs) → t.toList = Binary.ofBytes bytes) ∧
      decodeProtobuf.apply (.string t) =
        (Wire.decode (Binary.toBytes t.toList)).mapError .protobuf ∧
      gunzip.apply (.string t) = gunzipped (Binary.toBytes t.toList) ∧
      (Binary.toBytes t.toList = bytes ↔
        ¬ ∃ cs, bytes = Utf8.encode cs ∧ Binary.isAscii cs = false ∧ Binary.isBinary cs = true)) ∧
    ∀ text : String,
      decodeUrl.apply
        (.string (String.ofList (Percent.encode Percent.notAlphanumeric text.toList))) =
        .ok (.string text) := by
  constructor
  · intro bytes u h
    refine ⟨_, decodeUrl_of_spells h, ?_, ?_, rfl, gunzip_string _, ?_⟩
    · rintro cs rfl
      rw [String.toList_ofList, Binary.textOfBytes_encode]
    · intro hnone
      rw [String.toList_ofList, Binary.textOfBytes_of_not_encode hnone]
    · rw [String.toList_ofList]
      exact Binary.toBytes_textOfBytes_iff
  · intro text
    have hspells : Percent.Spells
        (String.ofList (Percent.encode Percent.notAlphanumeric text.toList)).toList
        (Utf8.encode text.toList) := by
      rw [String.toList_ofList]
      exact Percent.spells_encodeBytes _
    rw [decodeUrl_of_spells hspells, Binary.textOfBytes_encode, String.ofList_toList]

/-- The bytes of `é` in digits of both cases, which become one character, and those of a letter
with a first byte that no tail follows, which stay. -/
theorem decodeUrl_keeps_bytes_latin :
    Percent.Spells "%c3%A9".toList [0xC3, 0xA9] ∧ Percent.Spells "x%C3".toList [0x78, 0xC3] ∧
      (∃ t : String, decodeUrl.apply (.string "%c3%A9") = .ok (.string t) ∧
        t.toList = ['é'] ∧ Binary.toBytes t.toList ≠ [0xC3, 0xA9]) ∧
      ∃ t : String, decodeUrl.apply (.string "x%C3") = .ok (.string t) ∧
        t.toList = ['x', 'Ã'] ∧ Binary.toBytes t.toList = [0x78, 0xC3] := by
  have hletter : Percent.Spells "%c3%A9".toList [0xC3, 0xA9] :=
    .escaped (by decide) (by decide) (.escaped (by decide) (by decide) .nil)
  have hbroken : Percent.Spells "x%C3".toList [0x78, 0xC3] :=
    .plain (b := 0x78) (by decide) (.escaped (by decide) (by decide) .nil)
  have hnone : ∀ cs, [0x78, 0xC3] ≠ Utf8.encode cs := by
    intro cs hcs
    have hread := Utf8.decode?_eq_some_iff.2 hcs
    cases hread
  obtain ⟨t, ht, htext, -, -, -, hbytes⟩ := decodeUrl_keeps_bytes.1 _ _ hletter
  obtain ⟨u, hu, -, hbinary, -, -, hkept⟩ := decodeUrl_keeps_bytes.1 _ _ hbroken
  refine ⟨hletter, hbroken, ⟨t, ht, htext ['é'] (by decide), ?_⟩, u, hu, hbinary hnone, ?_⟩
  · rw [Ne, hbytes, not_not]
    exact ⟨['é'], by decide, by decide, by decide⟩
  · rw [hkept]
    rintro ⟨cs, hcs, -⟩
    exact hnone cs hcs

end StepFunction

end TrackerTraffic
