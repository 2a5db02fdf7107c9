import TrackerTraffic.Proofs.BinaryBodies
import TrackerTraffic.Proofs.FormRoundTrip

/-!
# Texts that travelled as bytes

Bytes are made a text at once, or by way of their binary string, which is repaired later on.  Both
ways lead to the same text, so a token's payload reads as its base64 and its JSON do one after the
other.
-/

namespace TrackerTraffic

/-! ### Two ways from bytes to text -/

namespace Binary

theorem ofBytes_cons (b : UInt8) (rest : Bytes) :
    ofBytes (b :: rest) = Char.ofNat b.toNat :: ofBytes rest :=
  rfl

theorem isAscii_ofBytes {bytes : Bytes} :
    isAscii (ofBytes bytes) = true ↔ ∀ b ∈ bytes, b.toNat < 0x80 := by
  rw [isAscii, List.all_eq_true, ofBytes, List.forall_mem_map]
  simp only [toNat_ofNat_byte, decide_eq_true_eq]

/-- ASCII bytes are the encoding of their binary string. -/
theorem decode?_of_ascii {bytes : Bytes} (h : ∀ b ∈ bytes, b.toNat < 0x80) :
    Utf8.decode? bytes = some (ofBytes bytes) := by
  induction bytes with
  | nil => rfl
  | cons b rest ih =>
    obtain ⟨hb, hrest⟩ := List.forall_mem_cons.1 h
    have hread := (Utf8.Encodes.one hb).decode?_append rest
    rw [List.singleton_append, ih hrest, Option.map_some] at hread
    rw [hread, ofBytes_cons]

/-- Repairing the binary string of bytes gives the text that the bytes give at once. -/
theorem repair_ofBytes (bytes : Bytes) : repair (ofBytes bytes) = textOfBytes bytes := by
  rw [repair]
  split_ifs with hascii hbinary
  · have hread := decode?_of_ascii (isAscii_ofBytes.1 hascii)
    rw [textOfBytes, hread, Option.getD_some]
  · rw [toBytes_ofBytes, textOfBytes]
  · exact absurd (isBinary_ofBytes bytes) hbinary

theorem textOfBytes_encode (cs : List Char) : textOfBytes (Utf8.encode cs) = cs := by
  rw [textOfBytes, Utf8.decode?_encode, Option.getD_some]

end Binary

/-! ### Parts of a token -/

namespace Text

theorem trimStart_append {c : Char} (h : isBlank c = false) (front back : List Char) :
    trimStart (front ++ c :: back) = trimStart front ++ c :: back := by
  have hback : (c :: back).dropWhile isBlank = c :: back :=
    List.dropWhile_cons_of_neg (by simp [h])
  rw [trimStart, List.dropWhile_append, hback]
  split_ifs with hempty
  · rw [trimStart, List.isEmpty_iff.1 hempty, List.nil_append]
  · rfl

theorem trimEnd_append {c : Char} (h : isBlank c = false) (front back : List Char) :
    trimEnd (front ++ c :: back) = front ++ c :: trimEnd back := by
  have hreverse : (front ++ c :: back).reverse = back.reverse ++ c :: front.reverse := by simp
  have hstart := trimStart_append h back.reverse front.reverse
  rw [trimEnd, hreverse, ← trimStart, hstart, trimEnd, ← trimStart]
  simp

/-- Trimming does not reach behind a character that is not blank. -/
theorem trim_append {c : Char} (h : isBlank c = false) (front back : List Char) :
    trim (front ++ c :: back) = trimStart front ++ c :: trimEnd back := by
  rw [trim, trimStart_append h, trimEnd_append h]

end Text

namespace StepFunction

/-- Blanks around a token belong to its outer parts. -/
theorem jwtPayload?_eq {header payload : List Char} (hheader : '.' ∉ header)
    (hpayload : '.' ∉ payload) (signature : List Char) :
    jwtPayload? (String.ofList (header ++ '.' :: (payload ++ '.' :: signature))) =
      some payload := by
  have htrim : Text.trim (header ++ '.' :: (payload ++ '.' :: signature)) =
      Text.trimStart header ++ '.' :: (payload ++ '.' :: Text.trimEnd signature) := by
    rw [Text.trim_append (by decide), Text.trimEnd_append (by decide)]
  have hstart : '.' ∉ Text.trimStart header :=
    fun hmem => hheader ((List.dropWhile_sublist Text.isBlank).subset hmem)
  rw [jwtPayload?, String.toList_ofList, htrim, CodeTable.cutAt_eq_splitOn,
    List.splitOn_append_cons_self_of_not_mem hstart,
    List.splitOn_append_cons_self_of_not_mem hpayload]
  rfl

/-! ### Functions in a row -/

/-- The JSON value of a text as it stands. -/
def jsonOf (text : String) : Except StepError Json := (Json.read? text).elim (.error .json) .ok

theorem jsonOf_eq_ok_iff {text : String} {v : Json} :
    jsonOf text = .ok v ↔ Json.read? text = some v := by
  rw [jsonOf]
  cases Json.read? text <;> simp

theorem parseJson_text (bytes : Bytes) :
    parseJson.apply (.string (Binary.text bytes)) =
      jsonOf (String.ofList (Binary.textOfBytes bytes)) := by
  show readJson (Binary.text bytes) = _
  rw [readJson, Binary.toList_text, Binary.repair_ofBytes, jsonOf]
  cases Json.read? (String.ofList (Binary.textOfBytes bytes)) <;> rfl

theorem parseJson_of_base64 (s : String) :
    (decodeBase64.apply (.string s) >>= parseJson.apply) =
      (base64Bytes s.toList >>= fun bytes => jsonOf (String.ofList (Binary.textOfBytes bytes))) := by
  show ((base64Bytes s.toList).map _ >>= parseJson.apply) = _
  cases base64Bytes s.toList with
  | error e => rfl
  | ok bytes => exact parseJson_text bytes

/-- The payload of a token reads as its base64 and the JSON in it read one after the other. -/
theorem decodeJwt_eq_ok_iff {header payload : String} (hheader : '.' ∉ header.toList)
    (hpayload : '.' ∉ payload.toList) (signature : String) (v : Json) :
    decodeJwt.apply (.string (header ++ "." ++ payload ++ "." ++ signature)) = .ok v ↔
      (decodeBase64.apply (.string payload) >>= parseJson.apply) = .ok v := by
  have htoken : header ++ "." ++ payload ++ "." ++ signature =
      String.ofList (header.toList ++ '.' :: (payload.toList ++ '.' :: signature.toList)) := by
    refine String.toList_injective ?_
    simp
  show readJwt _ = .ok v ↔ _
  rw [readJwt, htoken, jwtPayload?_eq hheader hpayload, parseJson_of_base64]
  dsimp only
  cases base64Bytes payload.toList with
  | error e => exact Iff.rfl
  | ok bytes =>
    -- both fail on a text that is no JSON, if for different reasons
    show _ ↔ jsonOf _ = .ok v
    rw [jsonOf_eq_ok_iff]
    dsimp only
    cases Json.read? (String.ofList (Binary.textOfBytes bytes)) with
    | none => simp
    | some w => simp

/-- However the UTF-8 encoding of a text is spelled in base64, its JSON is that of the text. -/
theorem parseJson_of_spells {s text : String}
    (h : Base64.Spells s.toList (Utf8.encode text.toList)) :
    (decodeBase64.apply (.string s) >>= parseJson.apply) = jsonOf text := by
  have hbytes : base64Bytes s.toList = .ok (Utf8.encode text.toList) := by
    rw [base64Bytes, Base64.decode?_of_spells h]
  rw [parseJson_of_base64, hbytes]
  show jsonOf (String.ofList (Binary.textOfBytes (Utf8.encode text.toList))) = _
  rw [Binary.textOfBytes_encode, String.ofList_toList]

/-- The text of bytes and the repaired text of their binary string are the same, and are the text
that the bytes encode, if they encode one.  So the payload of a token reads as its base64 and its
JSON read one after the other, and JSON that was sent as base64 of its encoding reads as it is. -/
theorem texts_of_bytes_agree :
    (∀ bytes : Bytes, Binary.textOfBytes bytes = Binary.repair (Binary.ofBytes bytes)) ∧
    (∀ cs : List Char, Binary.textOfBytes (Utf8.encode cs) = cs ∧
      Binary.repair (Binary.ofBytes (Utf8.encode cs)) = cs) ∧
    (∀ header payload signature : String, '.' ∉ header.toList → '.' ∉ payload.toList → ∀ v,
      decodeJwt.apply (.string (header ++ "." ++ payload ++ "." ++ signature)) = .ok v ↔
        (decodeBase64.apply (.string payload) >>= parseJson.apply) = .ok v) ∧
    ∀ (text : String) (v : Json),
      (decodeBase64.apply (.string (String.ofList (Base64.encode (Utf8.encode text.toList)))) >>=
        parseJson.apply) = .ok v ↔ Json.read? text = some v := by
  refine ⟨fun bytes => (Binary.repair_ofBytes bytes).symm, fun cs => ⟨?_, ?_⟩,
    fun header payload signature hheader hpayload =>
      decodeJwt_eq_ok_iff hheader hpayload signature, fun text v => ?_⟩
  · exact Binary.textOfBytes_encode cs
  · rw [Binary.repair_ofBytes, Binary.textOfBytes_encode]
  · have hspells : Base64.Spells (String.ofList (Base64.encode (Utf8.encode text.toList))).toList
        (Utf8.encode text.toList) := by
      rw [String.toList_ofList]
      exact Base64.spells_encode _
    rw [parseJson_of_spells hspells, jsonOf_eq_ok_iff]

/-- A token with blanks around it whose payload holds a letter of two bytes. -/
theorem texts_of_bytes_agree_token :
    let payload := "eyJjIjoiS8O2bG4ifQ"
    let v : Json := .object [("c", .string "Köln")]
    '.' ∉ "\teyJ9".toList ∧ '.' ∉ payload.toList ∧
      decodeJwt.apply (.string ("\teyJ9" ++ "." ++ payload ++ "." ++ " ")) = .ok v ∧
      (decodeBase64.apply (.string payload) >>= parseJson.apply) = .ok v := by
  intro payload v
  have hheader : '.' ∉ "\teyJ9".toList := by decide
  have hpayload : '.' ∉ payload.toList := by decide
  have hrow : (decodeBase64.apply (.string payload) >>= parseJson.apply) = .ok v := by cbv
  have htoken := (texts_of_bytes_agree.2.2.1 "\teyJ9" payload " " hheader hpayload v).2 hrow
  exact ⟨hheader, hpayload, htoken, hrow⟩

end StepFunction

end TrackerTraffic
