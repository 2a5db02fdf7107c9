import Mathlib
import TrackerTraffic.Step.Function

/-!
# Splitting and joining

A text is cut at the leftmost occurrence of the separator, and what follows the occurrence is cut in
the same way.  So the parts joined by the separator are the text, and no part holds the separator.
Parts are found again in the text that joins them if the separator stands there only where two of
them meet.
-/

namespace TrackerTraffic

namespace Text

/-- The separator stands in the text from the position on. -/
def StandsAt (separator text : List Char) (position : Nat) : Prop :=
  separator <+: text.drop position

/-- The position in the joined parts behind one of them and in front of the separator. -/
def IsJoint (separator : List Char) (parts : List (List Char)) (position : Nat) : Prop :=
  ∃ front back, parts = front ++ back ∧ front ≠ [] ∧ back ≠ [] ∧
    position = (separator.intercalate front).length

instance (separator text : List Char) (position : Nat) :
    Decidable (StandsAt separator text position) :=
  inferInstanceAs (Decidable (separator <+: text.drop position))

/-! ### Occurrences -/

theorem standsAt_append {separator : List Char} (front text : List Char) (position : Nat) :
    StandsAt separator (front ++ text) (front.length + position) ↔
      StandsAt separator text position := by
  rw [StandsAt, StandsAt, ← List.drop_drop, List.drop_left]

theorem infix_iff_exists_standsAt {separator text : List Char} :
    separator <:+: text ↔ ∃ position, StandsAt separator text position := by
  constructor
  · intro ⟨front, back, h⟩
    refine ⟨front.length, back, ?_⟩
    rw [← h, List.append_assoc, List.drop_left]
  · intro ⟨position, h⟩
    exact h.isInfix.trans (List.drop_suffix position text).isInfix

/-- A text without the separator, or one that is cut at its leftmost occurrence. -/
inductive Cut (separator : List Char) : List Char → Prop where
  | whole {text : List Char} (h : ∀ i, ¬ StandsAt separator text i) : Cut separator text
  | first (part rest : List Char)
      (h : ∀ i < part.length, ¬ StandsAt separator (part ++ separator ++ rest) i) :
      Cut separator (part ++ separator ++ rest)

theorem cut (separator text : List Char) : Cut separator text := by
  by_cases h : ∃ i, StandsAt separator text i
  · obtain ⟨rest, hrest⟩ := Nat.find_spec h
    have hlength : Nat.find h ≤ text.length := by
      by_contra hlt
      have hend : text.drop (Nat.find h) = [] := List.drop_eq_nil_of_le (by omega)
      have hnil : separator = [] := by
        rw [hend] at hrest
        exact (List.append_eq_nil_iff.1 hrest).1
      have hzero : Nat.find h ≤ 0 := Nat.find_min' h (by rw [hnil]; exact List.nil_prefix)
      omega
    have htext : text.take (Nat.find h) ++ separator ++ rest = text := by
      rw [List.append_assoc, hrest, List.take_append_drop]
    rw [← htext]
    refine .first _ rest ?_
    intro i hi
    rw [List.length_take_of_le hlength] at hi
    rw [htext]
    exact Nat.find_min h hi
  · exact .whole (not_exists.1 h)

/-! ### The scan -/

theorem splitFrom_skip (separator passed rest : List Char) :
    splitFrom separator passed.length (passed ++ rest) = splitFrom separator 0 rest := by
  induction passed with
  | nil => rfl
  | cons c passed ih => exact ih

theorem splitFrom_separator {separator : List Char} (hne : separator ≠ []) (rest : List Char) :
    splitFrom separator 0 (separator ++ rest) = [] :: splitFrom separator 0 rest := by
  obtain ⟨c, others, rfl⟩ := List.exists_cons_of_ne_nil hne
  have hprefix : (c :: others).isPrefixOf (c :: (others ++ rest)) = true := by simp
  have hskip := splitFrom_skip (c :: others) others rest
  rw [List.cons_append, splitFrom, if_pos hprefix, List.length_cons, Nat.add_sub_cancel, hskip]

/-- A character that the separator does not start at belongs to the next part. -/
theorem splitFrom_cons {separator : List Char} {c : Char} {text first : List Char}
    {others : List (List Char)} (hnot : ¬ StandsAt separator (c :: text) 0)
    (h : splitFrom separator 0 text = first :: others) :
    splitFrom separator 0 (c :: text) = (c :: first) :: others := by
  have hprefix : ¬ separator.isPrefixOf (c :: text) = true := by
    rwa [List.isPrefixOf_iff_prefix]
  rw [splitFrom, if_neg hprefix, h]

theorem splitFrom_whole {separator text : List Char} (h : ∀ i, ¬ StandsAt separator text i) :
    splitFrom separator 0 text = [text] := by
  induction text with
  | nil => rfl
  | cons c text ih => exact splitFrom_cons (h 0) (ih fun i => h (i + 1))

theorem splitFrom_first {separator : List Char} (hne : separator ≠ []) {part rest : List Char}
    (h : ∀ i < part.length, ¬ StandsAt separator (part ++ separator ++ rest) i) :
    splitFrom separator 0 (part ++ separator ++ rest) = part :: splitFrom separator 0 rest := by
  induction part with
  | nil => exact splitFrom_separator hne rest
  | cons c part ih =>
    have hpart := ih fun i hi => h (i + 1) (Nat.succ_lt_succ hi)
    exact splitFrom_cons (h 0 (Nat.succ_pos _)) hpart

theorem splitFrom_ne_nil {separator : List Char} (hne : separator ≠ []) (text : List Char) :
    splitFrom separator 0 text ≠ [] := by
  cases cut separator text with
  | whole h =>
    rw [splitFrom_whole h]
    exact List.cons_ne_nil text []
  | first part rest h =>
    rw [splitFrom_first hne h]
    exact List.cons_ne_nil part _

/-! ### Joining what was split -/

theorem intercalate_splitFrom {separator : List Char} (hne : separator ≠ []) (text : List Char) :
    separator.intercalate (splitFrom separator 0 text) = text := by
  -- by the length of the text: behind an occurrence fewer characters are left
  induction hsize : text.length using Nat.strongRecOn generalizing text with
  | ind size ih =>
    cases cut separator text with
    | whole h => rw [splitFrom_whole h, List.intercalate_singleton]
    | first part rest h =>
      have hpos := List.length_pos_of_ne_nil hne
      simp only [List.length_append] at hsize
      have hrest := ih rest.length (by omega) rest rfl
      rw [splitFrom_first hne h, List.intercalate_cons_of_ne_nil (splitFrom_ne_nil hne rest), hrest,
        List.append_assoc]

theorem not_infix_of_mem_splitFrom {separator : List Char} (hne : separator ≠ [])
    (text : List Char) : ∀ part ∈ splitFrom separator 0 text, ¬ separator <:+: part := by
  induction hsize : text.length using Nat.strongRecOn generalizing text with
  | ind size ih =>
    have hpos := List.length_pos_of_ne_nil hne
    cases cut separator text with
    | whole h =>
      intro part hpart
      rw [splitFrom_whole h, List.mem_singleton] at hpart
      rw [hpart, infix_iff_exists_standsAt]
      exact not_exists.2 h
    | first front rest h =>
      simp only [List.length_append] at hsize
      rw [splitFrom_first hne h]
      refine List.forall_mem_cons.2 ⟨?_, ih rest.length (by omega) rest rfl⟩
      intro hinfix
      obtain ⟨before, after, hfront⟩ := hinfix
      -- an occurrence inside the part would be further left than the first one
      refine h before.length ?_ ⟨after ++ separator ++ rest, ?_⟩
      · simp only [← hfront, List.length_append]
        omega
      · simp only [← hfront, List.append_assoc, List.drop_left]

theorem split_nil (text : List Char) : split [] text = text.map ([·]) := rfl

theorem split_of_ne_nil {separator : List Char} (hne : separator ≠ []) (text : List Char) :
    split separator text = splitFrom separator 0 text := by
  rw [split, if_neg (by simpa using hne)]

theorem intercalate_characters (text : List Char) :
    List.intercalate [] (text.map ([·])) = text := by
  induction text with
  | nil => rfl
  | cons c rest ih =>
    by_cases hrest : rest = []
    · rw [hrest]
      rfl
    · have hmap : rest.map ([·]) ≠ [] := by simpa using hrest
      rw [List.map_cons, List.intercalate_cons_of_ne_nil hmap, ih]
      rfl

theorem intercalate_split (separator text : List Char) :
    separator.intercalate (split separator text) = text := by
  by_cases hne : separator = []
  · rw [hne, split_nil, intercalate_characters]
  · rw [split_of_ne_nil hne, intercalate_splitFrom hne]

/-! ### Splitting what was joined -/

theorem IsJoint.behind_first {separator first : List Char} {others : List (List Char)}
    {position : Nat} (h : IsJoint separator (first :: others) position) :
    position = first.length ∨ ∃ later, IsJoint separator others later ∧
      position = (first ++ separator).length + later := by
  obtain ⟨front, back, hparts, hfront, hback, hposition⟩ := h
  obtain ⟨head, tail, rfl⟩ := List.exists_cons_of_ne_nil hfront
  obtain ⟨rfl, hothers⟩ := List.cons.inj hparts
  by_cases htail : tail = []
  · subst htail
    rw [List.intercalate_singleton] at hposition
    exact .inl hposition
  · refine .inr ⟨_, ⟨tail, back, hothers, htail, hback, rfl⟩, ?_⟩
    rw [hposition, List.intercalate_cons_of_ne_nil htail, List.length_append]

theorem splitFrom_intercalate {separator : List Char} (hne : separator ≠ [])
    {parts : List (List Char)} (hparts : parts ≠ [])
    (h : ∀ i, StandsAt separator (separator.intercalate parts) i → IsJoint separator parts i) :
    splitFrom separator 0 (separator.intercalate parts) = parts := by
  induction parts with
  | nil => exact absurd rfl hparts
  | cons first others ih =>
    by_cases hothers : others = []
    · subst hothers
      rw [List.intercalate_singleton] at h ⊢
      refine splitFrom_whole fun i hi => ?_
      obtain ⟨front, back, hsplit, hfront, hback, -⟩ := h i hi
      have hlength := congrArg List.length hsplit
      have hfront := List.length_pos_of_ne_nil hfront
      have hback := List.length_pos_of_ne_nil hback
      simp only [List.length_append, List.length_singleton] at hlength
      omega
    · have hpos := List.length_pos_of_ne_nil hne
      have hjoined : separator.intercalate (first :: others) =
          first ++ separator ++ separator.intercalate others := by
        rw [List.intercalate_cons_of_ne_nil hothers]
      rw [hjoined] at h ⊢
      rw [splitFrom_first hne, ih hothers]
      · intro i hi
        have hstands := (standsAt_append (first ++ separator) _ i).2 hi
        rcases (h _ hstands).behind_first with hfirst | ⟨later, hjoint, hlater⟩
        · rw [List.length_append] at hfirst
          omega
        · have heq : i = later := by omega
          rwa [heq]
      · intro i hi hstands
        rcases (h i hstands).behind_first with hfirst | ⟨later, -, hlater⟩
        · omega
        · rw [List.length_append] at hlater
          omega

end Text

/-! ### The step -/

namespace StepFunction

/-- The text that a scalar other than null is shown as. -/
inductive Displays : Json → String → Prop where
  | string (s : String) : Displays (.string s) s
  | number (n : Json.Number) : Displays (.number n) n.text
  | bool (b : Bool) : Displays (.bool b) (if b then "true" else "false")

theorem Displays.textOf_eq {v : Json} {text : String} (h : Displays v text) :
    textOf v = .ok text := by
  cases h <;> rfl

/-- The strings that a text is split into. -/
def partsOf (separator text : String) : List String :=
  (Text.split separator.toList text.toList).map String.ofList

theorem toList_partsOf (separator text : String) :
    (partsOf separator text).map String.toList = Text.split separator.toList text.toList := by
  rw [partsOf, List.map_map]
  exact List.map_id'' (fun _ => String.toList_ofList) _

theorem apply_split {separator : String} {v : Json} {text : String} (h : Displays v text) :
    (split separator).apply v = .ok (.array ((partsOf separator text).map .string)) := by
  show (textOf v >>= (split separator).applyToText) = _
  rw [h.textOf_eq, partsOf, List.map_map]
  rfl

theorem intercalate_partsOf (separator text : String) :
    separator.intercalate (partsOf separator text) = text := by
  apply String.toList_inj.1
  rw [String.toList_intercalate, toList_partsOf, Text.intercalate_split]

theorem partsOf_ne_nil {separator : String} (hne : separator ≠ "") (text : String) :
    partsOf separator text ≠ [] := by
  have hchars : separator.toList ≠ [] := by simpa using hne
  have hsplit := Text.splitFrom_ne_nil hchars text.toList
  rw [← Text.split_of_ne_nil hchars] at hsplit
  simpa [partsOf] using hsplit

theorem toList_mem_split {separator text part : String} (h : part ∈ partsOf separator text) :
    part.toList ∈ Text.split separator.toList text.toList := by
  rw [← toList_partsOf]
  exact List.mem_map_of_mem h

theorem partsOf_intercalate {separator : String} (hne : separator ≠ "") {parts : List String}
    (hparts : parts ≠ [])
    (h : ∀ i, Text.StandsAt separator.toList (separator.intercalate parts).toList i →
      Text.IsJoint separator.toList (parts.map String.toList) i) :
    partsOf separator (separator.intercalate parts) = parts := by
  have hchars : separator.toList ≠ [] := by simpa using hne
  have hmap : parts.map String.toList ≠ [] := by simpa using hparts
  rw [String.toList_intercalate] at h
  rw [partsOf, String.toList_intercalate, Text.split_of_ne_nil hchars,
    Text.splitFrom_intercalate hchars hmap h, List.map_map]
  exact List.map_id'' (fun _ => String.ofList_toList) _

/--
The strings that a text is split into, joined by the separator, are the text.  Without a separator
they are its characters; otherwise there is at least one, and none holds the separator.  Strings are
found again in the text that joins them if the separator stands in it only where two of them meet.
-/
theorem split_join :
    (∀ (separator : String) (v : Json) (text : String), Displays v text →
      ∃ parts : List String, (split separator).apply v = .ok (.array (parts.map .string)) ∧
        separator.intercalate parts = text ∧
        (separator ≠ "" →
          parts ≠ [] ∧ ∀ part ∈ parts, ¬ separator.toList <:+: part.toList) ∧
        (separator = "" → ∀ part ∈ parts, part.length = 1)) ∧
    ∀ (separator : String) (parts : List String), separator ≠ "" → parts ≠ [] →
      (∀ i, Text.StandsAt separator.toList (separator.intercalate parts).toList i →
        Text.IsJoint separator.toList (parts.map String.toList) i) →
      (split separator).apply (.string (separator.intercalate parts)) =
        .ok (.array (parts.map .string)) := by
  refine ⟨?_, ?_⟩
  · intro separator v text h
    refine ⟨_, apply_split h, intercalate_partsOf separator text, ?_, ?_⟩
    · intro hne
      have hchars : separator.toList ≠ [] := by simpa using hne
      refine ⟨partsOf_ne_nil hne text, fun part hpart => ?_⟩
      have hmem := toList_mem_split hpart
      rw [Text.split_of_ne_nil hchars] at hmem
      exact Text.not_infix_of_mem_splitFrom hchars text.toList _ hmem
    · intro hempty part hpart
      have hmem := toList_mem_split hpart
      rw [hempty] at hmem
      obtain ⟨c, -, hc⟩ := List.mem_map.1 hmem
      rw [← String.length_toList, ← hc]
      rfl
  · intro separator parts hne hparts h
    rw [apply_split (.string _), partsOf_intercalate hne hparts h]

/-- A separator that overlaps itself, and an empty part between two occurrences that touch. -/
theorem split_join_touching :
    (split "aba").apply (.string "xabaabay") =
      .ok (.array [.string "x", .string "", .string "y"]) := by
  refine split_join.2 "aba" ["x", "", "y"] (by decide) (by decide) ?_
  have hpositions : ∀ i ≤ 5, Text.StandsAt "aba".toList "xabaabay".toList i → i = 1 ∨ i = 4 := by
    decide
  have hjoined : ("aba".intercalate ["x", "", "y"]).toList = "xabaabay".toList := by decide
  intro i hi
  rw [hjoined] at hi
  have hlength : 3 ≤ "xabaabay".toList.length - i := by
    rw [← List.length_drop]
    exact hi.length_le
  have hfive : i ≤ 5 := by
    have height : "xabaabay".toList.length = 8 := by decide
    omega
  rcases hpositions i hfive hi with rfl | rfl
  · exact ⟨[['x']], [[], ['y']], by decide, by decide, by decide, by decide⟩
  · exact ⟨[['x'], []], [['y']], by decide, by decide, by decide, by decide⟩

-- Where the separator also stands across a joint, the scan finds that occurrence first.
example : (split "aa").apply (.string ("aa".intercalate ["a", "b"])) =
    .ok (.array [.string "", .string "ab"]) := by
  cbv

end StepFunction

end TrackerTraffic
