import TrackerTraffic.Capture.Basic
import TrackerTraffic.Proofs.Base64RoundTrip
import TrackerTraffic.Step.Function

/-!
# Bytes in texts

Bytes that were sent as base64, however it is spelled, travel through steps and captures
without loss: they become a text of one character for each byte, and the functions that
want bytes find the same bytes in it.
-/

namespace TrackerTraffic

/-! ### Binary strings -/

namespace Binary

theorem toNat_ofNat_byte (b : UInt8) : (Char.ofNat b.toNat).toNat = b.toNat := by
  have hlt := b.toNat_lt
  have hvalid : b.toNat.isValidChar := .inl (by omega)
  rw [Char.toNat_ofNat, if_pos hvalid]

/-- A binary string has one character for each byte, of the byte's number. -/
theorem map_toNat_ofBytes (bytes : Bytes) :
    (ofBytes bytes).map Char.toNat = bytes.map UInt8.toNat := by
  rw [ofBytes, List.map_map]
  exact List.map_congr_left fun b _ => toNat_ofNat_byte b

theorem isBinary_ofBytes (bytes : Bytes) : isBinary (ofBytes bytes) = true := by
  rw [isBinary, List.all_eq_true]
  intro c hc
  obtain ⟨b, -, rfl⟩ := List.mem_map.1 hc
  have hlt := b.toNat_lt
  rw [toNat_ofNat_byte, decide_eq_true_iff]
  omega

theorem toBytes_ofBytes (bytes : Bytes) : toBytes (ofBytes bytes) = bytes := by
  rw [toBytes, if_pos (isBinary_ofBytes bytes), ofBytes, List.map_map]
  have hid : ((fun c : Char => UInt8.ofNat c.toNat) ∘ fun b : UInt8 => Char.ofNat b.toNat) = id := by
    funext b
    show UInt8.ofNat (Char.ofNat b.toNat).toNat = b
    rw [toNat_ofNat_byte, UInt8.ofNat_toNat]
  rw [hid, List.map_id]

/-- The binary string of bytes as a text. -/
def text (bytes : Bytes) : String := String.ofList (ofBytes bytes)

theorem toList_text (bytes : Bytes) : (text bytes).toList = ofBytes bytes := String.toList_ofList

theorem toBytes_text (bytes : Bytes) : toBytes (text bytes).toList = bytes := by
  rw [toList_text, toBytes_ofBytes]

end Binary

/-! ### Functions on bytes -/

namespace StepFunction

theorem apply_decodeBase64 {s : String} {bytes : Bytes} (h : Base64.Spells s.toList bytes) :
    decodeBase64.apply (.string s) = .ok (.string (Binary.text bytes)) := by
  have hdecode := Base64.decode?_of_spells h
  show (base64Bytes s.toList).map _ = _
  rw [base64Bytes, hdecode]
  rfl

/-- The message of bytes that stand in a binary string is read from those bytes. -/
theorem apply_decodeProtobuf (bytes : Bytes) :
    decodeProtobuf.apply (.string (Binary.text bytes)) =
      (Wire.decode bytes).mapError .protobuf := by
  show (Wire.decode (Binary.toBytes (Binary.text bytes).toList)).mapError StepError.protobuf = _
  rw [Binary.toBytes_text]

/-- What gunzipping makes of bytes: the inflated data as a binary string. -/
def gunzipped (bytes : Bytes) : Except StepError Json :=
  match Gzip.decode? bytes with
  | some data => .ok (.string (Binary.text data))
  | none => .error .gzip

theorem gunzip_string (t : String) :
    gunzip.apply (.string t) = gunzipped (Binary.toBytes t.toList) := by
  show (inflated t).map Json.string = _
  rw [inflated, gunzipped]
  cases Gzip.decode? (Binary.toBytes t.toList) with
  | none => rfl
  | some data => rfl

theorem apply_gunzip (bytes : Bytes) :
    gunzip.apply (.string (Binary.text bytes)) = gunzipped bytes := by
  rw [gunzip_string, Binary.toBytes_text]

end StepFunction

/-! ### Captured bodies -/

namespace Capture

theorem PostData.content?_base64 {s : String} {bytes : Bytes} (h : Base64.Spells s.toList bytes) :
    (PostData.mk (some s) (some "base64")).content? = some (some (Binary.text bytes)) := by
  have hdecode := Base64.decode?_of_spells h
  show (Base64.decode? s.toList).map _ = _
  rw [hdecode]
  rfl

theorem Entry.content_toRequest {e : Entry} {url : Url} {body : PostData} {content : Option String}
    (hurl : Url.parse e.request.url = .ok url) (hbody : e.request.postData = some body)
    (hcontent : body.content? = some content) (index : Nat) :
    ∃ r, e.toRequest index = .ok r ∧ r.content = content := by
  have helim : e.request.postData.elim (some none) PostData.content? = some content := by
    rw [hbody]
    exact hcontent
  rw [Entry.toRequest, hurl, helim]
  exact ⟨_, rfl, rfl⟩

end Capture

/-! ### From base64 to bytes -/

/-- However bytes are spelled in base64, decoding them gives a text of one character for each byte,
in which the functions on bytes find just these bytes; and the body of a captured request that is
spelled so becomes the same text. -/
theorem StepFunction.base64_carries_bytes (s : String) (bytes : Bytes)
    (h : Base64.Spells s.toList bytes) :
    ∃ t : String,
      decodeBase64.apply (.string s) = .ok (.string t) ∧
      t.toList.map Char.toNat = bytes.map UInt8.toNat ∧
      Binary.toBytes t.toList = bytes ∧
      decodeProtobuf.apply (.string t) = (Wire.decode bytes).mapError .protobuf ∧
      gunzip.apply (.string t) = gunzipped bytes ∧
      ∀ (e : Capture.Entry) (url : Url) (index : Nat),
        Url.parse e.request.url = .ok url →
        e.request.postData = some ⟨some s, some "base64"⟩ →
        ∃ r, e.toRequest index = .ok r ∧ r.content = some t := by
  refine ⟨Binary.text bytes, apply_decodeBase64 h, ?_, Binary.toBytes_text bytes,
    apply_decodeProtobuf bytes, apply_gunzip bytes, fun e url index hurl hbody => ?_⟩
  · rw [Binary.toList_text, Binary.map_toNat_ofBytes]
  · exact Capture.Entry.content_toRequest hurl hbody (Capture.PostData.content?_base64 h) index

/-- Letters of the URL alphabet, a line break between them and no padding. -/
theorem StepFunction.base64_carries_url_letters :
    let s := "-_\n8"
    let e : Capture.Entry := ⟨none, "POST", "app:/upload", [], [], some ⟨some s, some "base64"⟩⟩
    Base64.encode [0xFB, 0xFF] = ['+', '/', '8', '='] ∧
      Base64.Spells s.toList [0xFB, 0xFF] ∧
      ∃ t : String, decodeBase64.apply (.string s) = .ok (.string t) ∧
        t.toList.map Char.toNat = [0xFB, 0xFF] ∧ Binary.toBytes t.toList = [0xFB, 0xFF] ∧
        ∃ r, e.toRequest 0 = .ok r ∧ r.content = some t := by
  intro s e
  have hrespells : Base64.Respells ['-', '_', '\n', '8'] ['+', '/', '8'] :=
    .letter .minus <| .letter .underscore <| .space (by simp [Base64.whiteSpace]) <| .letter (.same '8') .nil
  have htext : s.toList = ['-', '_', '\n', '8'] := by decide
  have hletters : Base64.encodeUnpadded [0xFB, 0xFF] = ['+', '/', '8'] := by decide
  have hspells : Base64.Spells s.toList [0xFB, 0xFF] := by
    refine ⟨[], List.nil_prefix, ?_⟩
    rw [htext, hletters]
    exact hrespells
  have hurl : Url.parse "app:/upload" = .ok ⟨"app", none, none, "/upload", none⟩ := by rfl
  obtain ⟨t, hdecode, hchars, hbytes, -, -, hentry⟩ :=
    base64_carries_bytes s [0xFB, 0xFF] hspells
  exact ⟨by decide, hspells, t, hdecode, hchars, hbytes, hentry e _ 0 hurl rfl⟩

end TrackerTraffic
