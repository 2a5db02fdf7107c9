import TrackerTraffic.Detection.Indicator
import TrackerTraffic.Proofs.Base64RoundTrip
import TrackerTraffic.Proofs.LiteralPatterns
import TrackerTraffic.Proofs.UrlBytes

/-!
# Where known values are found

The candidates of a request are its parts, each with each of the known values.  The
search for known values finds exactly the candidates whose part has a spelling of the
value in it, and so does the search with the patterns of the values.
-/

namespace TrackerTraffic

namespace Property

theorem mem_all (property : Property) : property ∈ all := by
  cases property <;> decide

theorem all_ascending : all.Pairwise fun p q => p.ctorIdx < q.ctorIdx := by decide

end Property

namespace Indicator

open Pattern (SameUpToCase OccursUpToCase)

/-! ### Spellings -/

/-- A text that a known value is looked for as. -/
inductive Spells (value : String) : List Char → Prop where
  | plain : Spells value value.toList
  | padded : Spells value (Base64.encode (Utf8.encode value.toList))
  | unpadded : Spells value (Base64.encodeUnpadded (Utf8.encode value.toList))
  | percent : Spells value (Percent.encode Percent.notAlphanumeric value.toList)

theorem mem_distinct {cs : List Char} {texts : List (List Char)} :
    cs ∈ distinct texts ↔ cs ∈ texts := by
  fun_induction distinct texts with
  | case1 a rest ih =>
    rw [ih]
    simp
  | case2 a b rest hne ih => rw [List.mem_cons, ih, ← List.mem_cons]
  | case3 texts hshort => rfl

/-- Sorting the spellings and leaving out repetitions loses none of them. -/
theorem mem_variants {value : String} {cs : List Char} :
    cs ∈ variants value ↔ Spells value cs := by
  rw [variants, mem_distinct, List.mem_mergeSort]
  constructor
  · intro h
    simp only [List.mem_cons, List.not_mem_nil, or_false] at h
    obtain rfl | rfl | rfl | rfl := h
    · exact .plain
    · exact .padded
    · exact .unpadded
    · exact .percent
  · intro h
    cases h <;> simp

theorem variants_ne_nil (value : String) : variants value ≠ [] :=
  List.ne_nil_of_mem (mem_variants.2 .plain)

theorem length_distinct_le (texts : List (List Char)) : (distinct texts).length ≤ texts.length := by
  fun_induction distinct texts with
  | case1 a rest ih => exact Nat.le_succ_of_le ih
  | case2 a b rest hne ih => exact Nat.succ_le_succ ih
  | case3 texts hshort => exact Nat.le_refl _

theorem length_variants_le (value : String) : (variants value).length ≤ 4 := by
  have h := length_distinct_le ([value.toList, Base64.encode (Utf8.encode value.toList),
    Base64.encodeUnpadded (Utf8.encode value.toList),
    Percent.encode Percent.notAlphanumeric value.toList].mergeSort bytesBefore)
  rw [List.length_mergeSort] at h
  exact h

/-! ### Occurrences -/

theorem startsUpToCase_iff {pattern text : List Char} :
    startsUpToCase pattern text = true ↔ ∃ w, w <+: text ∧ SameUpToCase pattern w := by
  fun_induction startsUpToCase pattern text with
  | case1 text =>
    constructor
    · intro _
      exact ⟨[], List.nil_prefix, .nil⟩
    · intro _
      rfl
  | case2 pattern hne =>
    constructor
    · intro h
      cases h
    · intro h
      obtain ⟨w, hw, hsame⟩ := h
      rw [List.prefix_nil.1 hw] at hsame
      cases hsame
      exact absurd rfl hne
  | case3 p pattern c text ih =>
    rw [Bool.and_eq_true, ih]
    constructor
    · intro h
      obtain ⟨hc, w, hw, hsame⟩ := h
      exact ⟨c :: w, List.cons_prefix_cons.2 ⟨rfl, hw⟩, .cons hc hsame⟩
    · intro h
      obtain ⟨w, hw, hsame⟩ := h
      cases hsame with
      | cons hc hsame =>
        obtain ⟨rfl, hprefix⟩ := List.cons_prefix_cons.1 hw
        exact ⟨hc, _, hprefix, hsame⟩

theorem occursUpToCase_iff {pattern text : List Char} :
    occursUpToCase pattern text = true ↔ OccursUpToCase pattern text := by
  rw [OccursUpToCase]
  induction text with
  | nil =>
    rw [occursUpToCase, List.isEmpty_iff]
    simp [SameUpToCase]
  | cons c text ih =>
    rw [occursUpToCase, Bool.or_eq_true, startsUpToCase_iff, ih]
    simp only [List.infix_cons_iff, or_and_right, exists_or]

theorem occursUpToCase_of_infix {cs text : List Char} (h : cs <:+: text) :
    OccursUpToCase cs text :=
  ⟨cs, h, List.forall₂_same.2 fun c _ => Text.sameUpToCase_self c⟩

/-- A spelling of the value occurs in the text, whatever the case of its letters. -/
def SpelledIn (value : String) (text : List Char) : Prop :=
  ∃ spelling, Spells value spelling ∧ OccursUpToCase spelling text

theorem any_variants_iff {value : String} {text : List Char} :
    (variants value).any (occursUpToCase · text) = true ↔ SpelledIn value text := by
  rw [List.any_eq_true]
  simp only [mem_variants, occursUpToCase_iff, SpelledIn]

instance (value : String) (text : List Char) : Decidable (SpelledIn value text) :=
  decidable_of_iff _ any_variants_iff

/-! ### The pattern of a value -/

theorem pattern_eq_some_iff {value : String} {pattern : Pattern} :
    pattern? value = some pattern ↔
      Pattern.choice (variants value) = pattern ∧ pattern.weight ≤ 10 * pow2 20 := by
  have hread := Pattern.parseUnder_quoteAny (variants_ne_nil value)
  rw [pattern?, hread]
  split
  · rename_i hlarge
    constructor
    · intro h
      cases h
    · intro h
      rw [h.1] at hlarge
      exact absurd hlarge (Nat.not_lt.2 h.2)
  · rename_i hsmall
    constructor
    · intro h
      cases h
      exact ⟨rfl, Nat.not_lt.1 hsmall⟩
    · intro h
      rw [h.1]
      rfl

theorem occursIn_pattern_iff {value : String} {pattern : Pattern}
    (h : pattern? value = some pattern) (text : String) :
    pattern.occursIn text = true ↔ SpelledIn value text.toList := by
  rw [← (pattern_eq_some_iff.1 h).1, Pattern.occursIn_choice_iff (variants_ne_nil value)]
  simp only [mem_variants, SpelledIn]

/-! ### Values of limited length -/

theorem length_encodeBytes_le (escaped : UInt8 → Bool) (bytes : Bytes) :
    (Percent.encodeBytes escaped bytes).length ≤ 3 * bytes.length := by
  rw [Percent.encodeBytes]
  induction bytes with
  | nil => exact Nat.le_refl 0
  | cons b rest ih =>
    rw [List.flatMap_cons, List.length_append, List.length_cons]
    split
    · rw [List.length_singleton]
      omega
    · have hescape : (Percent.escape b).length = 3 := rfl
      omega

theorem length_spelling_le {value : String} {spelling : List Char} (h : Spells value spelling) :
    spelling.length ≤ 3 * (Utf8.encode value.toList).length + 2 := by
  have hunpadded : (Base64.encodeUnpadded (Utf8.encode value.toList)).length =
      (4 * (Utf8.encode value.toList).length + 2) / 3 := by
    rw [Base64.encodeUnpadded_eq, List.length_map, Base64.length_sextets]
  cases h with
  | plain =>
    have hlength := Utf8.length_le_encode value.toList
    omega
  | padded =>
    rw [Base64.encode, List.length_append, Base64.padding, List.length_replicate, hunpadded]
    omega
  | unpadded =>
    rw [hunpadded]
    omega
  | percent => exact Nat.le_add_right_of_le (length_encodeBytes_le _ _)

/-- Values of up to 1600 bytes have a pattern. -/
theorem isSome_pattern_of_length {value : String} (h : (Utf8.encode value.toList).length ≤ 1600) :
    (pattern? value).isSome = true := by
  have hspelling : ∀ cs ∈ variants value, cs.length ≤ 4802 := by
    intro cs hcs
    have hlength := length_spelling_le (mem_variants.1 hcs)
    omega
  have hweight := Pattern.weight_choice_le hspelling
  have hcount := length_variants_le value
  have hsize : 10 * pow2 20 = 10485760 := rfl
  rw [Option.isSome_iff_exists]
  refine ⟨_, pattern_eq_some_iff.2 ⟨rfl, ?_⟩⟩
  omega

end Indicator

namespace Indicators

open Indicator (Part Spells SpelledIn parts pattern? reasoning)

/-! ### Candidates -/

/-- The known values of a property. -/
def values (known : Indicators) (property : Property) : List String :=
  ((known.find? (·.1 == property)).map (·.2)).getD []

/-- A known value of a property and a part of a request in which it may be found. -/
structure Candidate where
  property : Property
  value : String
  part : Part

/-- Each known value with each part of a request, in the order of properties, values and parts. -/
def candidates (known : Indicators) (r : Request) : List Candidate :=
  Property.all.flatMap fun property =>
    (known.values property).flatMap fun value => (parts r).map fun part => ⟨property, value, part⟩

/-- The value is not empty, and the part has a spelling of it. -/
def Candidate.Found (c : Candidate) : Prop := c.value ≠ "" ∧ SpelledIn c.value c.part.text.toList

instance (c : Candidate) : Decidable c.Found := inferInstanceAs (Decidable (_ ∧ _))

def Candidate.toMatch (c : Candidate) : Match :=
  ⟨none, c.property, c.part.context, c.part.path, reasoning, .string c.value⟩

theorem flatMap_inOrder (known : Indicators) (found : Property → String → List Match) :
    (known.inOrder.flatMap fun entry => entry.2.flatMap (found entry.1)) =
      Property.all.flatMap fun property => (known.values property).flatMap (found property) := by
  rw [inOrder]
  induction Property.all with
  | nil => rfl
  | cons property rest ih =>
    rw [List.flatMap_cons, ← ih, List.filterMap_cons, values]
    cases hentry : known.find? (·.1 == property) with
    | none => rfl
    | some entry =>
      have hmatch := List.find?_some hentry
      have hproperty : entry.1 = property := eq_of_beq hmatch
      rw [← hproperty]
      rfl

theorem matchesOf_eq (r : Request) (property : Property) (value : String) :
    Indicator.matchesOf r property value =
      (((parts r).map fun part => Candidate.mk property value part).filter fun c => c.Found).map
        Candidate.toMatch := by
  rw [Indicator.matchesOf, List.filter_map, List.map_map]
  by_cases hempty : value = ""
  · have hnone : ∀ part ∈ parts r,
        ¬ ((fun c : Candidate => decide c.Found) ∘ Candidate.mk property value) part = true := by
      intro part _ hfound
      exact (of_decide_eq_true hfound).1 hempty
    rw [if_pos (String.isEmpty_iff.2 hempty), List.filter_eq_nil_iff.2 hnone]
    rfl
  · have hfilter : (parts r).filter
        ((fun c : Candidate => decide c.Found) ∘ Candidate.mk property value) =
        (parts r).filter fun part =>
          (Indicator.variants value).any (Indicator.occursUpToCase · part.text.toList) := by
      refine List.filter_congr fun part _ => ?_
      rw [Bool.eq_iff_iff, Indicator.any_variants_iff, Function.comp_apply, decide_eq_true_iff]
      exact ⟨fun h => h.2, fun h => ⟨hempty, h⟩⟩
    rw [if_neg (mt String.isEmpty_iff.1 hempty), hfilter]
    rfl

/-- The matches are the candidates that are found, each with the value that was looked for. -/
theorem matchesIn_eq (known : Indicators) (r : Request) :
    known.matchesIn r = ((known.candidates r).filter fun c => c.Found).map Candidate.toMatch := by
  rw [matchesIn, flatMap_inOrder, candidates, List.filter_flatMap, List.map_flatMap]
  refine List.flatMap_congr fun property _ => ?_
  rw [List.filter_flatMap, List.map_flatMap]
  exact List.flatMap_congr fun value _ => matchesOf_eq r property value

theorem patternMatchesOf_eq {r : Request} {property : Property} {value : String}
    (h : value ≠ "" → (pattern? value).isSome = true) :
    Indicator.patternMatchesOf r property value = Indicator.matchesOf r property value := by
  rw [Indicator.patternMatchesOf, Indicator.matchesOf]
  by_cases hempty : value = ""
  · rw [if_pos (String.isEmpty_iff.2 hempty), if_pos (String.isEmpty_iff.2 hempty)]
  · obtain ⟨pattern, hpattern⟩ := Option.isSome_iff_exists.1 (h hempty)
    have hfilter : (parts r).filter (fun part => pattern.occursIn part.text) =
        (parts r).filter fun part =>
          (Indicator.variants value).any (Indicator.occursUpToCase · part.text.toList) := by
      refine List.filter_congr fun part _ => ?_
      rw [Bool.eq_iff_iff, Indicator.any_variants_iff, Indicator.occursIn_pattern_iff hpattern]
    rw [if_neg (mt String.isEmpty_iff.1 hempty), if_neg (mt String.isEmpty_iff.1 hempty), hpattern]
    simp only [hfilter]

theorem patternMatchesIn_eq {known : Indicators} {r : Request}
    (h : ∀ property, ∀ value ∈ known.values property, value ≠ "" →
      (pattern? value).isSome = true) :
    known.patternMatchesIn r = known.matchesIn r := by
  rw [patternMatchesIn, matchesIn, flatMap_inOrder, flatMap_inOrder]
  exact List.flatMap_congr fun property _ =>
    List.flatMap_congr fun value hvalue => patternMatchesOf_eq (h property value hvalue)

theorem mem_candidates {known : Indicators} {r : Request} {c : Candidate} :
    c ∈ known.candidates r ↔ c.value ∈ known.values c.property ∧ c.part ∈ parts r := by
  rw [candidates]
  simp only [List.mem_flatMap, List.mem_map]
  constructor
  · intro h
    obtain ⟨property, -, value, hvalue, part, hpart, rfl⟩ := h
    exact ⟨hvalue, hpart⟩
  · intro h
    exact ⟨c.property, c.property.mem_all, c.value, h.1, c.part, h.2, rfl⟩

/-- The search is exact: its matches are the parts with a spelling of a value that is not empty, in
the order of properties, values and parts.  A spelling that occurs as it stands is always found.
Patterns find just the spellings, whatever signs a value has, so that a search with patterns has the
same matches; values of up to 1600 bytes have one. -/
theorem matchesIn_exact (known : Indicators) (r : Request) :
    (Property.all.Pairwise fun p q => p.ctorIdx < q.ctorIdx) ∧
    known.matchesIn r = ((known.candidates r).filter fun c => c.Found).map Candidate.toMatch ∧
    (∀ property, ∀ value ∈ known.values property, ∀ part ∈ parts r, ∀ spelling,
      value ≠ "" → Spells value spelling → spelling <:+: part.text.toList →
        Candidate.toMatch ⟨property, value, part⟩ ∈ known.matchesIn r) ∧
    (∀ value pattern, pattern? value = some pattern →
      ∀ text, pattern.occursIn text = true ↔ SpelledIn value text.toList) ∧
    ((∀ property, ∀ value ∈ known.values property, value ≠ "" →
      (pattern? value).isSome = true) → known.patternMatchesIn r = known.matchesIn r) ∧
    ∀ value, (Utf8.encode value.toList).length ≤ 1600 → (pattern? value).isSome = true := by
  refine ⟨Property.all_ascending, matchesIn_eq known r, ?_, ?_, patternMatchesIn_eq, ?_⟩
  · intro property value hvalue part hpart spelling hne hspells hinfix
    rw [matchesIn_eq]
    have hfound : Candidate.Found ⟨property, value, part⟩ :=
      ⟨hne, spelling, hspells, Indicator.occursUpToCase_of_infix hinfix⟩
    exact List.mem_map_of_mem
      (List.mem_filter.2 ⟨mem_candidates.2 ⟨hvalue, hpart⟩, decide_eq_true hfound⟩)
  · intro value pattern hpattern text
    exact Indicator.occursIn_pattern_iff hpattern text
  · intro value hlength
    exact Indicator.isSome_pattern_of_length hlength

/-- A value in base64 in a header and percent-encoded in the query. -/
theorem matchesIn_exact_latitude :
    let r : Request :=
      { endpointUrl := "https://t.example/", path := "/collect?lat=52%2E2x",
        headers := [⟨"X-Geo", "NTIuMg=="⟩] }
    let known : Indicators := [(.latitude, ["52.2"])]
    ⟨none, .latitude, .header, "X-Geo", "indicator", .string "52.2"⟩ ∈ known.matchesIn r ∧
      ⟨none, .latitude, .query, "query", "indicator", .string "52.2"⟩ ∈ known.matchesIn r ∧
      known.patternMatchesIn r = known.matchesIn r := by
  intro r known
  have hvalue : "52.2" ∈ known.values .latitude := List.mem_cons_self
  have hbytes : (Utf8.encode "52.2".toList).length ≤ 1600 := by decide
  have hheader : (⟨.header, "X-Geo", "NTIuMg=="⟩ : Part) ∈ parts r := by simp [parts, r]
  have hquery : (⟨.query, "query", "lat=52%2E2x"⟩ : Part) ∈ parts r := by
    have hstring : r.queryString = some "lat=52%2E2x" := by decide
    simp [parts, hstring, Context.name]
  obtain ⟨-, -, hverbatim, -, hpatterns, hshort⟩ := matchesIn_exact known r
  refine ⟨?_, ?_, hpatterns ?_⟩
  · exact hverbatim .latitude "52.2" hvalue _ hheader _ (by decide) .padded ⟨[], [], by decide⟩
  · exact hverbatim .latitude "52.2" hvalue _ hquery _ (by decide) .percent
      ⟨"lat=".toList, "x".toList, by decide⟩
  · intro property value hmem _
    rw [values, List.find?_singleton] at hmem
    split at hmem
    · rw [List.mem_singleton.1 hmem]
      exact hshort "52.2" hbytes
    · cases hmem

end Indicators

end TrackerTraffic
