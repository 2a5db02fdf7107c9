import TrackerTraffic.Proofs.PlacesApart
import TrackerTraffic.Proofs.TargetReadBack

/-!
# Dotted paths

Names joined by points, without any sign of the two path languages.  As a write target
such a text has the keys of its names, and as a read path it looks where they write.
-/

namespace TrackerTraffic.Dotted

open Target

/-- The signs of read paths and write targets, and those in front of numbers. -/
def signs : List Char := ['.', '[', ']', '*', '?', '@', '(', ')', '$', '+', '\'', '"']

/-- The text may stand between points: it has no sign, and if it is digits it is the decimal text of
a position of 63 bits. -/
structure IsSegment (name : String) : Prop where
  nonempty : name ≠ ""
  unsigned : ∀ c ∈ name.toList, c ∉ signs
  decimal : name.toList.all Char.isDigit = true → ∃ n < 2 ^ 63, name = toString n

def text (names : List String) : String := ".".intercalate names

/-- The steps behind points that a dotted text is, but for its first point. -/
def steps (names : List String) : List Target.Step := names.map fun name => .dotted name.toList

/-! ### Segments -/

theorem IsSegment.exists_cons {name : String} (h : IsSegment name) :
    ∃ c rest, name.toList = c :: rest ∧ c ∉ signs := by
  have hne : name.toList ≠ [] := by simpa using h.nonempty
  obtain ⟨c, rest, hcons⟩ := List.exists_cons_of_ne_nil hne
  exact ⟨c, rest, hcons, h.unsigned c (by simp [hcons])⟩

theorem isPlainChar_of_not_mem_signs {c : Char} (h : c ∉ signs) : isPlainChar c = true := by
  simp only [signs, List.mem_cons, not_or] at h
  simp [isPlainChar, isPieceChar, Path.isNameChar, isQuerySign, h]

theorem IsSegment.isPlain {name : String} (h : IsSegment name) :
    (Target.Step.dotted name.toList).IsPlain := by
  refine ⟨by simpa using h.nonempty, List.all_eq_true.2 fun c hc => ?_, fun hdigits => ?_⟩
  · exact isPlainChar_of_not_mem_signs (h.unsigned c hc)
  · obtain ⟨n, hn, rfl⟩ := h.decimal hdigits
    exact ⟨n, by omega, rfl⟩

theorem unsigned?_of_name {cs : List Char} (hsign : '+' ∉ cs) (h : ¬cs.all Char.isDigit = true) :
    Text.unsigned? cs = none := by
  have hdigits : Text.digits? cs = none := by
    rw [Text.digits?, if_pos]
    simp [h]
  unfold Text.unsigned?
  split
  · exact absurd List.mem_cons_self hsign
  · simp only [hdigits]

theorem IsSegment.exists_key {name : String} (h : IsSegment name) :
    ∃ key : Key, keyOf name.toList = .ok key ∧ key.text = name ∧ key.Plain := by
  by_cases hdigits : name.toList.all Char.isDigit = true
  · obtain ⟨n, hn, rfl⟩ := h.decimal hdigits
    refine ⟨.position n, keyOf_toString n (by omega), rfl, ?_⟩
    show n + 1 < 2 ^ 64
    omega
  · have hne : name.toList ≠ [] := by simpa using h.nonempty
    refine ⟨_, keyOf_name hne hdigits, String.ofList_toList, ?_⟩
    show Text.unsigned? (String.ofList name.toList).toList = none
    rw [String.ofList_toList]
    exact unsigned?_of_name (fun hplus => h.unsigned '+' hplus (by decide)) hdigits

/-! ### Texts -/

variable {names : List String}

theorem toList_text (hne : names ≠ []) : '.' :: (text names).toList = stepsText (steps names) := by
  induction names with
  | nil => exact absurd rfl hne
  | cons name rest ih =>
    cases rest with
    | nil => simp [text, steps, stepsText, Target.Step.text]
    | cons next later =>
      have hrest := ih (List.cons_ne_nil next later)
      have hsplit : (text (name :: next :: later)).toList =
          name.toList ++ '.' :: (text (next :: later)).toList := by
        simp [text, String.toList_intercalate]
      rw [hsplit, hrest]
      rfl

theorem piecesBehind_steps (h : ∀ name ∈ names, IsSegment name) :
    piecesBehind (stepsText (steps names)) = names.map String.toList := by
  induction names with
  | nil => rfl
  | cons name rest ih =>
    have hstep := (h name List.mem_cons_self).isPlain
    have hpieces := Target.Step.piecesBehind_append hstep (stepsText_stops (steps rest))
    rw [ih fun n hn => h n (List.mem_cons_of_mem _ hn)] at hpieces
    exact hpieces

theorem readSegments_steps (h : ∀ name ∈ names, IsSegment name) :
    Path.readSegments (stepsText (steps names)) = .ok (names.map .child) := by
  induction names with
  | nil => rw [steps, List.map_nil, stepsText, List.flatMap_nil, Path.readSegments, List.map_nil]
  | cons name rest ih =>
    have hread := reads_dotted (h name List.mem_cons_self).isPlain (stepsText_stops (steps rest))
    rw [String.ofList_toList] at hread
    exact Path.readSegments_of_reads hread (ih fun n hn => h n (List.mem_cons_of_mem _ hn))

theorem exists_keys (h : ∀ name ∈ names, IsSegment name) :
    ∃ keys : List Key, (names.map String.toList).mapM keyOf = .ok keys ∧
      keys.map Key.text = names ∧ ∀ key ∈ keys, key.Plain := by
  induction names with
  | nil => exact ⟨[], rfl, rfl, by simp⟩
  | cons name rest ih =>
    obtain ⟨key, hkey, htext, hplain⟩ := (h name List.mem_cons_self).exists_key
    obtain ⟨keys, hkeys, htexts, hplains⟩ := ih fun n hn => h n (List.mem_cons_of_mem _ hn)
    refine ⟨key :: keys, ?_, by rw [List.map_cons, htext, htexts],
      List.forall_mem_cons.2 ⟨hplain, hplains⟩⟩
    rw [List.map_cons, List.mapM_cons, hkey, hkeys]
    rfl

theorem text_cons (h : ∀ name ∈ names, IsSegment name) (hne : names ≠ []) :
    ∃ c rest, (text names).toList = c :: rest ∧ c ∉ signs := by
  have htext := toList_text hne
  obtain ⟨name, later, rfl⟩ := List.exists_cons_of_ne_nil hne
  obtain ⟨c, rest, hcons, hsign⟩ := (h name List.mem_cons_self).exists_cons
  have hsteps : stepsText (steps (name :: later)) =
      '.' :: (name.toList ++ stepsText (steps later)) := rfl
  rw [hsteps, hcons] at htext
  exact ⟨c, _, (List.cons.inj htext).2, hsign⟩

/-- As a write target, a dotted text has the keys of its names. -/
theorem keys_of_parse (h : ∀ name ∈ names, IsSegment name) (hne : names ≠ []) {target : Target}
    (hparse : Target.parse (text names) = .ok target) :
    target.keys.map Key.text = names ∧ ∀ key ∈ target.keys, key.Plain := by
  obtain ⟨c, rest, hcons, hsign⟩ := text_cons h hne
  have hread := readKeys_of_parse hparse
  rw [hcons] at hread
  have hchar := isPlainChar_of_not_mem_signs hsign
  have hpiece : isPieceChar c = true := ((Bool.and_eq_true _ _).mp hchar).1
  have hroot : c ≠ '$' := by
    rintro rfl
    exact hsign (by decide)
  obtain ⟨hkeys, -⟩ := keys_of_name hroot hpiece hread
  rw [← hcons, toList_text hne, piecesBehind_steps h] at hkeys
  obtain ⟨keys, hmap, htexts, hplain⟩ := exists_keys h
  obtain rfl := Except.ok.inj (hkeys.symm.trans hmap)
  exact ⟨htexts, hplain⟩

/-- As a read path, a dotted text leads to its names one behind the other. -/
theorem segments_of_parse (h : ∀ name ∈ names, IsSegment name) (hne : names ≠ []) {path : Path}
    (hparse : Path.parse (text names) = .ok path) : path.segments = names.map .child := by
  obtain ⟨c, rest, hcons, hsign⟩ := text_cons h hne
  have hread := readPath_of_parse hparse
  rw [hcons] at hread
  have hchar := isPlainChar_of_not_mem_signs hsign
  have hpiece : isPieceChar c = true := ((Bool.and_eq_true _ _).mp hchar).1
  have hname : Path.isNameChar c = true := ((Bool.and_eq_true _ _).mp hpiece).1
  have hroot : c ≠ '$' := by
    rintro rfl
    exact hsign (by decide)
  have hstar : c ≠ '*' := by
    rintro rfl
    exact hsign (by decide)
  have hsegments := readSegments_of_readPath hroot hname hstar hread
  rw [← hcons, toList_text hne, readSegments_steps h] at hsegments
  exact (Except.ok.inj hsegments).symm

/-! ### Looking where keys write -/

theorem look_null (keys : List Key) : look keys .null = .null := by
  induction keys with
  | nil => rfl
  | cons key rest ih => exact ih

theorem collapse_selectAll (keys : List Key) (root : Json) :
    (Path.collapse (Path.selectAll ((keys.map Key.text).map .child) [root])).getD .null =
      look keys root := by
  induction keys generalizing root with
  | nil => rfl
  | cons key rest ih =>
    rw [List.map_cons, List.map_cons, selectAll_cons, Path.Segment.select, look, child]
    cases Path.childNamed key.text root with
    | none =>
      rw [Option.toList_none, selectAll_nil_values, Option.getD_none, look_null]
      rfl
    | some v => exact ih v

end TrackerTraffic.Dotted
