import Mathlib
import TrackerTraffic.Bytes.Base64

/-!
# Reading base64

A byte sequence has many lenient spellings: each of its letters may be taken from either
alphabet, padding may be cut short, and white space may stand anywhere.  The reader gives
back the bytes of every one of them.
-/

namespace TrackerTraffic.Base64

/-! ### Lenient spellings -/

/-- The sign stands for the letter: it is the letter, or the URL alphabet's sign for it. -/
inductive StandsFor : Char → Char → Prop
  | same (c : Char) : StandsFor c c
  | minus : StandsFor '-' '+'
  | underscore : StandsFor '_' '/'

def whiteSpace : List Char := ['\t', '\n', '\x0c', '\r', ' ']

/-- The text spells letters one behind the other, with white space anywhere. -/
inductive Respells : List Char → List Char → Prop
  | nil : Respells [] []
  | space {c : Char} {text letters : List Char} :
      c ∈ whiteSpace → Respells text letters → Respells (c :: text) letters
  | letter {c l : Char} {text letters : List Char} :
      StandsFor c l → Respells text letters → Respells (c :: text) (l :: letters)

/-- The text is a lenient spelling of the bytes: it spells their letters and the first so many
signs of their padding. -/
def Spells (text : List Char) (bytes : Bytes) : Prop :=
  ∃ signs, signs <+: padding bytes.length ∧ Respells text (encodeUnpadded bytes ++ signs)

theorem Respells.refl (text : List Char) : Respells text text := by
  induction text with
  | nil => exact .nil
  | cons c rest ih => exact .letter (.same c) ih

/-- What is written for bytes, with all of its padding, spells them. -/
theorem spells_encode (bytes : Bytes) : Spells (encode bytes) bytes :=
  ⟨padding bytes.length, List.prefix_refl _, .refl _⟩

theorem isSpace_of_mem {c : Char} (h : c ∈ whiteSpace) : isSpace c = true := by
  simp only [whiteSpace, List.mem_cons, List.not_mem_nil, or_false] at h
  rcases h with rfl | rfl | rfl | rfl | rfl <;> rfl

/-- The reader takes the character as it is. -/
def IsStandard (c : Char) : Prop := isSpace c = false ∧ standardize c = c

theorem StandsFor.isSpace_eq_false {c l : Char} (h : StandsFor c l) (hl : IsStandard l) :
    isSpace c = false := by
  cases h with
  | same => exact hl.1
  | minus => decide
  | underscore => decide

theorem StandsFor.standardize_eq {c l : Char} (h : StandsFor c l) (hl : IsStandard l) :
    standardize c = l := by
  cases h with
  | same => exact hl.2
  | minus => decide
  | underscore => decide

/-- Without white space and in the standard alphabet, a spelling is what it spells. -/
theorem Respells.standard_eq {text letters : List Char} (h : Respells text letters)
    (hstandard : ∀ l ∈ letters, IsStandard l) :
    (text.filter (!isSpace ·)).map standardize = letters := by
  induction h with
  | nil => rfl
  | space hspace _ ih =>
    rw [List.filter_cons_of_neg (by simp [isSpace_of_mem hspace])]
    exact ih hstandard
  | letter hstands _ ih =>
    obtain ⟨hl, hrest⟩ := List.forall_mem_cons.1 hstandard
    have hkept := hstands.isSpace_eq_false hl
    rw [List.filter_cons_of_pos (by simp [hkept]), List.map_cons, hstands.standardize_eq hl,
      ih hrest]

/-! ### Letters -/

theorem letterValue?_letter {n : Nat} (h : n < 64) : letterValue? (letter n) = some n := by
  have hall : ∀ m ∈ List.range 64, letterValue? (letter m) = some m := by decide
  exact hall n (List.mem_range.2 h)

theorem isStandard_letter {n : Nat} (h : n < 64) : IsStandard (letter n) ∧ letter n ≠ '=' := by
  have hall : ∀ m ∈ List.range 64,
      (isSpace (letter m) = false ∧ standardize (letter m) = letter m) ∧ letter m ≠ '=' := by
    decide
  exact hall n (List.mem_range.2 h)

theorem isStandard_sign : IsStandard '=' := by
  constructor <;> decide

theorem letterValues?_map_letter {values : List Nat} (h : ∀ n ∈ values, n < 64) :
    letterValues? (values.map letter) = some values := by
  induction values with
  | nil => rfl
  | cons n rest ih =>
    obtain ⟨hn, hrest⟩ := List.forall_mem_cons.1 h
    rw [List.map_cons, letterValues?, letterValue?_letter hn, ih hrest]
    rfl

/-! ### Groups of six bits -/

/-- The bits of bytes in groups of six, filled up with zeros. -/
def sextets : Bytes → List Nat
  | [] => []
  | [a] => [a.toNat / 4, a.toNat % 4 * 16]
  | [a, b] => [a.toNat / 4, a.toNat % 4 * 16 + b.toNat / 16, b.toNat % 16 * 4]
  | a :: b :: c :: rest =>
    a.toNat / 4 :: (a.toNat % 4 * 16 + b.toNat / 16) :: (b.toNat % 16 * 4 + c.toNat / 64) ::
      c.toNat % 64 :: sextets rest

theorem encodeUnpadded_eq (bytes : Bytes) : encodeUnpadded bytes = (sextets bytes).map letter := by
  induction bytes using encodeUnpadded.induct with
  | case1 => rfl
  | case2 a => rfl
  | case3 a b => rfl
  | case4 a b c rest ih => simp only [encodeUnpadded, sextets, List.map_cons, ih]

theorem lt_of_mem_sextets {bytes : Bytes} {n : Nat} (h : n ∈ sextets bytes) : n < 64 := by
  induction bytes using sextets.induct with
  | case1 => simp [sextets] at h
  | case2 a =>
    have ha := a.toNat_lt
    simp only [sextets, List.mem_cons, List.not_mem_nil, or_false] at h
    omega
  | case3 a b =>
    have ha := a.toNat_lt
    have hb := b.toNat_lt
    simp only [sextets, List.mem_cons, List.not_mem_nil, or_false] at h
    omega
  | case4 a b c rest ih =>
    have ha := a.toNat_lt
    have hb := b.toNat_lt
    have hc := c.toNat_lt
    simp only [sextets, List.mem_cons] at h
    rcases h with h | h | h | h | h
    · omega
    · omega
    · omega
    · omega
    · exact ih h

theorem length_sextets (bytes : Bytes) : (sextets bytes).length = (4 * bytes.length + 2) / 3 := by
  induction bytes using sextets.induct with
  | case1 => rfl
  | case2 a => simp [sextets]
  | case3 a b => simp [sextets]
  | case4 a b c rest ih =>
    simp only [sextets, List.length_cons, ih]
    omega

theorem byte_eq {b : UInt8} {n : Nat} (h : n = b.toNat) : UInt8.ofNat n = b := by
  rw [h, UInt8.ofNat_toNat]

/-- The groups of six bits make up the bytes again. -/
theorem joinSextets_sextets (bytes : Bytes) : joinSextets (sextets bytes) = bytes := by
  induction bytes using sextets.induct with
  | case1 => rfl
  | case2 a =>
    have ha := a.toNat_lt
    simp only [sextets, joinSextets]
    rw [byte_eq (b := a) (by omega)]
  | case3 a b =>
    have ha := a.toNat_lt
    have hb := b.toNat_lt
    simp only [sextets, joinSextets]
    rw [byte_eq (b := a) (by omega), byte_eq (b := b) (by omega)]
  | case4 a b c rest ih =>
    have ha := a.toNat_lt
    have hb := b.toNat_lt
    have hc := c.toNat_lt
    simp only [sextets, joinSextets, ih]
    rw [byte_eq (b := a) (by omega), byte_eq (b := b) (by omega), byte_eq (b := c) (by omega)]

/-! ### Padding -/

/-- Padding fills up a group of four letters at most, and no group has a single letter. -/
theorem paddingFits_iff {letters signs : Nat} :
    paddingFits letters signs = true ↔ letters % 4 ≠ 1 ∧ signs ≤ (4 - letters % 4) % 4 := by
  have hcases : letters % 4 = 0 ∨ letters % 4 = 1 ∨ letters % 4 = 2 ∨ letters % 4 = 3 := by omega
  rcases hcases with h | h | h | h <;> simp [paddingFits, h]

theorem paddingFits_sextets {bytes : Bytes} {signs : Nat} (h : signs ≤ (3 - bytes.length % 3) % 3) :
    paddingFits (sextets bytes).length signs = true := by
  obtain ⟨groups, hgroups⟩ : ∃ groups, bytes.length / 3 = groups := ⟨_, rfl⟩
  rw [paddingFits_iff, length_sextets]
  -- The last group of bytes is full, or has one byte and two letters, or two bytes and three.
  have hcases : bytes.length = 3 * groups ∨ bytes.length = 3 * groups + 1 ∨
      bytes.length = 3 * groups + 2 := by omega
  rcases hcases with hlength | hlength | hlength
  all_goals
    rw [hlength] at h ⊢
    omega

/-! ### The reader -/

theorem decode?_letters {values : List Nat} (hvalues : ∀ n ∈ values, n < 64) {signs : Nat}
    (hsigns : paddingFits values.length signs = true) {text : List Char}
    (h : (text.filter (!isSpace ·)).map standardize =
      values.map letter ++ List.replicate signs '=') :
    decode? text = some (joinSextets values) := by
  have hletters : ∀ c ∈ values.map letter, (c != '=') = true := by
    intro c hc
    obtain ⟨n, hn, rfl⟩ := List.mem_map.1 hc
    simp [(isStandard_letter (hvalues n hn)).2]
  have htake : (values.map letter ++ List.replicate signs '=').takeWhile (· != '=') =
      values.map letter := by
    rw [List.takeWhile_append_of_pos hletters]
    simp
  have hdrop : (values.map letter ++ List.replicate signs '=').dropWhile (· != '=') =
      List.replicate signs '=' := by
    rw [List.dropWhile_append_of_pos hletters]
    cases signs <;> simp
  have hall : (List.replicate signs '=').all (· == '=') = true := by simp
  simp only [decode?, h, htake, hdrop, hall, List.length_map, List.length_replicate, hsigns,
    letterValues?_map_letter hvalues]
  rfl

/-- Every lenient spelling of bytes reads as the bytes. -/
theorem decode?_of_spells {text : List Char} {bytes : Bytes} (h : Spells text bytes) :
    decode? text = some bytes := by
  obtain ⟨signs, hprefix, hrespells⟩ := h
  obtain ⟨hlength, hreplicate⟩ := List.prefix_replicate_iff.1 hprefix
  have hvalues : ∀ n ∈ sextets bytes, n < 64 := fun _ => lt_of_mem_sextets
  have hfits := paddingFits_sextets hlength
  rw [hreplicate, encodeUnpadded_eq] at hrespells
  have hstandard : ∀ l ∈ (sextets bytes).map letter ++ List.replicate signs.length '=',
      IsStandard l := by
    intro l hl
    rcases List.mem_append.1 hl with hletter | hsign
    · obtain ⟨n, hn, rfl⟩ := List.mem_map.1 hletter
      exact (isStandard_letter (hvalues n hn)).1
    · rw [List.eq_of_mem_replicate hsign]
      exact isStandard_sign
  rw [decode?_letters hvalues hfits (hrespells.standard_eq hstandard), joinSextets_sextets]

end TrackerTraffic.Base64
