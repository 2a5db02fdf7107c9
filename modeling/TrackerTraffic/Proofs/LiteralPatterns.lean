import Mathlib.Data.List.Forall2
import TrackerTraffic.Pattern.Literal
import TrackerTraffic.Pattern.Parser
import TrackerTraffic.Proofs.PlainPatterns

/-!
# Patterns of literal texts

The text `quoteAny` writes for some literal texts is read, when case is ignored, as the
choice between sequences of single characters, whatever signs the literals hold.  Such a
pattern occurs just where one of the literals does up to the case of letters.
-/

namespace TrackerTraffic.Pattern

/-- Each character of the one text is a variant of the other's at its place. -/
def SameUpToCase (cs ds : List Char) : Prop :=
  List.Forall₂ (fun c d => Text.sameUpToCase c d = true) cs ds

def OccursUpToCase (cs text : List Char) : Prop := ∃ w, w <:+: text ∧ SameUpToCase cs w

/-! ### Characters and literals as patterns -/

/-- The pattern a character of a literal is read as. -/
def letter (c : Char) : Pattern :=
  if (Text.caseVariants c).length = 1 then one (.single c) else one (.folded (.single c))

def literal (cs : List Char) : Pattern := joinSequence (cs.map letter)

def choice (literals : List (List Char)) : Pattern := joinAlternatives (literals.map literal)

/-- A character without other variants is read as itself, any other as all of its variants. -/
theorem fits_letter_iff {c : Char} {w : List Char} :
    Fits (letter c) w ↔ ∃ d, w = [d] ∧ Text.sameUpToCase c d = true := by
  rw [letter]
  split
  · rename_i hlength
    obtain ⟨e, he⟩ := List.length_eq_one_iff.1 hlength
    have honly (d : Char) : Text.sameUpToCase c d = true ↔ d = e := by
      rw [← Text.mem_caseVariants, he, List.mem_singleton]
    have hce : c = e := (honly c).1 (Text.sameUpToCase_self c)
    simp only [fits_one_iff, CharSet.contains_single, honly, ← hce]
  · simp only [fits_one_iff, CharSet.contains_folded_single]

theorem fits_joinSequence_cons {p : Pattern} {ps : List Pattern} {w : List Char} :
    Fits (joinSequence (p :: ps)) w ↔ ∃ u v, w = u ++ v ∧ Fits p u ∧ Fits (joinSequence ps) v := by
  cases ps with
  | nil => simp [joinSequence, fits_empty_iff]
  | cons q qs => exact fits_seq_iff

theorem fits_literal_iff {cs w : List Char} : Fits (literal cs) w ↔ SameUpToCase cs w := by
  rw [literal, SameUpToCase]
  induction cs generalizing w with
  | nil => rw [List.map_nil, joinSequence, fits_empty_iff, List.forall₂_nil_left_iff]
  | cons c cs ih =>
    rw [List.map_cons, fits_joinSequence_cons, List.forall₂_cons_left_iff]
    simp only [fits_letter_iff, ih]
    constructor
    · intro h
      obtain ⟨_, v, rfl, ⟨d, rfl, hd⟩, hv⟩ := h
      exact ⟨d, v, hd, hv, rfl⟩
    · intro h
      obtain ⟨d, v, hd, hv, rfl⟩ := h
      exact ⟨[d], v, rfl, ⟨d, rfl, hd⟩, hv⟩

theorem fits_joinAlternatives_iff {ps : List Pattern} (hne : ps ≠ []) {w : List Char} :
    Fits (joinAlternatives ps) w ↔ ∃ p ∈ ps, Fits p w := by
  fun_induction joinAlternatives ps with
  | case1 => exact absurd rfl hne
  | case2 p => simp
  | case3 p rest hrest ih => rw [fits_alt_iff, ih hrest, List.exists_mem_cons_iff _ p]

theorem fits_choice_iff {literals : List (List Char)} (hne : literals ≠ []) {w : List Char} :
    Fits (choice literals) w ↔ ∃ cs ∈ literals, SameUpToCase cs w := by
  rw [choice, fits_joinAlternatives_iff (by simpa using hne)]
  simp [fits_literal_iff]

theorem isPlain_letter (c : Char) : IsPlain (letter c) := by
  rw [letter]
  split
  · exact .one _
  · exact .one _

theorem isPlain_joinSequence {ps : List Pattern} (hps : ∀ p ∈ ps, IsPlain p) :
    IsPlain (joinSequence ps) := by
  fun_induction joinSequence ps with
  | case1 => exact .empty
  | case2 p => exact hps p List.mem_cons_self
  | case3 p rest hrest ih =>
    rw [List.forall_mem_cons] at hps
    exact .seq hps.1 (ih hps.2)

theorem isPlain_joinAlternatives {ps : List Pattern} (hps : ∀ p ∈ ps, IsPlain p) :
    IsPlain (joinAlternatives ps) := by
  fun_induction joinAlternatives ps with
  | case1 => exact .empty
  | case2 p => exact hps p List.mem_cons_self
  | case3 p rest hrest ih =>
    rw [List.forall_mem_cons] at hps
    exact .alt hps.1 (ih hps.2)

theorem isPlain_choice (literals : List (List Char)) : IsPlain (choice literals) := by
  apply isPlain_joinAlternatives
  intro p hp
  obtain ⟨cs, -, rfl⟩ := List.mem_map.1 hp
  apply isPlain_joinSequence
  intro q hq
  obtain ⟨c, -, rfl⟩ := List.mem_map.1 hq
  exact isPlain_letter c

/-! ### Reading quoted text -/

/-- From one state the reader gets to another through a text, given rounds enough. -/
def Reads (s : State) (cs : List Char) (t : State) : Prop :=
  ∀ limit, cs.length < limit → State.run? limit s cs = some t

theorem Reads.done {s : State} (hs : s.flags.verbose = false) : Reads s [] s := by
  intro limit hlimit
  obtain ⟨limit, rfl⟩ := Nat.exists_eq_succ_of_ne_zero (Nat.ne_of_gt hlimit)
  simp [State.run?, Flags.skip, hs]

theorem Reads.step {s s' t : State} {c : Char} {rest rest' : List Char}
    (hs : s.flags.verbose = false) (hstep : s.step? c rest = some (s', rest'))
    (hlength : rest'.length ≤ rest.length) (hrest : Reads s' rest' t) : Reads s (c :: rest) t := by
  intro limit hlimit
  obtain ⟨limit, rfl⟩ := Nat.exists_eq_succ_of_ne_zero (Nat.ne_of_gt (Nat.zero_lt_of_lt hlimit))
  have hskip : s.flags.skip (c :: rest) = c :: rest := by simp [Flags.skip, hs]
  rw [State.run?, hskip]
  simp only [hstep]
  apply hrest
  rw [List.length_cons] at hlimit
  omega

def letterItem (c : Char) : Item := ⟨letter c, true, 0⟩

theorem atomPattern_caseless (c : Char) :
    atomPattern? .caseless (.literal c false) = some (letter c) := by
  have hunicode : (!Flags.caseless.unicode && false && decide (128 ≤ c.toNat)) = false := rfl
  have hfold : Flags.caseless.fold (.single c) = .folded (.single c) := rfl
  rw [atomPattern?, hunicode, hfold, letter, if_neg Bool.false_ne_true]
  split
  · rfl
  · rfl

theorem step_of_not_isSign {s : State} (hs : s.flags = .caseless) {c : Char}
    (hc : isSign c = false) (rest : List Char) :
    s.step? c rest = some (s.push (letterItem c), rest) := by
  unfold State.step?
  split
  case h_13 =>
    rw [hs, atomPattern_caseless]
    rfl
  all_goals exact absurd hc (by decide)

theorem isEscapable_of_isSign {c : Char} (hc : isSign c = true) : isEscapable c = true := by
  have hall : signs.all isEscapable = true := rfl
  exact List.all_eq_true.1 hall c (List.contains_iff_mem.1 hc)

/-- No sign is the letter of an escape, so behind a backslash it stands for itself. -/
theorem escape_of_isSign (flags : Flags) {c : Char} (hc : isSign c = true) (rest : List Char) :
    escape? flags (c :: rest) = some (.literal c false, rest) := by
  rw [escape?, if_pos (isEscapable_of_isSign hc)]
  -- What is left are the letters of escapes, none of them a sign.
  all_goals
    intro h
    rw [h] at hc
    exact absurd hc (by decide)

theorem step_backslash (s : State) (cs : List Char) :
    s.step? '\\' cs = (do
      let (atom, rest) ← escape? s.flags cs
      let p ← atomPattern? s.flags atom
      return (s.push ⟨p, true, 0⟩, rest)) := rfl

theorem step_of_isSign {s : State} (hs : s.flags = .caseless) {c : Char}
    (hc : isSign c = true) (rest : List Char) :
    s.step? '\\' (c :: rest) = some (s.push (letterItem c), rest) := by
  rw [step_backslash, escape_of_isSign _ hc, hs, Option.bind_eq_bind, Option.bind_some]
  simp only
  rw [atomPattern_caseless]
  rfl

/-- The state with the characters of a literal at the end of the current sequence. -/
def State.pushLetters (s : State) (cs : List Char) : State :=
  { s with current :=
    { s.current with sequence := (cs.map letterItem).reverse ++ s.current.sequence } }

theorem pushLetters_cons (s : State) (c : Char) (cs : List Char) :
    s.pushLetters (c :: cs) = (s.push (letterItem c)).pushLetters cs := by
  simp [State.pushLetters, State.push]

theorem Reads.quote {s t : State} (hs : s.flags = .caseless) (cs : List Char) {rest : List Char}
    (hrest : Reads (s.pushLetters cs) rest t) : Reads s (quote cs ++ rest) t := by
  induction cs generalizing s with
  | nil => exact hrest
  | cons c cs ih =>
    have hverbose : s.flags.verbose = false := by rw [hs]; rfl
    rw [pushLetters_cons] at hrest
    have htail : Reads (s.push (letterItem c)) (Pattern.quote cs ++ rest) t := ih hs hrest
    rw [Pattern.quote, List.flatMap_cons, ← Pattern.quote, List.append_assoc]
    cases hc : isSign c with
    | true => exact htail.step hverbose (step_of_isSign hs hc _) (by simp)
    | false => exact htail.step hverbose (step_of_not_isSign hs hc _) (by simp)

/-- The item of a literal that stands alone between two bars. -/
def literalItem (cs : List Char) : Item := sequenceItem (cs.map letterItem).reverse

theorem quoteAny_singleton (cs : List Char) : quoteAny [cs] = quote cs := by
  rw [quoteAny, List.map_singleton, List.intercalate_singleton]

theorem quoteAny_cons_cons (cs ds : List Char) (literals : List (List Char)) :
    quoteAny (cs :: ds :: literals) = quote cs ++ '|' :: quoteAny (ds :: literals) := by
  rw [quoteAny, List.map_cons, List.intercalate_cons_of_ne_nil (by simp), ← quoteAny]
  simp

/-- The alternatives read from the quoted literals are the items of these, newest first. -/
theorem reads_quoteAny {s : State} (hs : s.flags = .caseless) (hempty : s.current.sequence = [])
    (cs : List Char) (literals : List (List Char)) :
    ∃ t, Reads s (quoteAny (cs :: literals)) t ∧ t.outer = s.outer ∧
      sequenceItem t.current.sequence :: t.current.alternatives =
        ((cs :: literals).map literalItem).reverse ++ s.current.alternatives := by
  induction literals generalizing s cs with
  | nil =>
    refine ⟨s.pushLetters cs, ?_, rfl, ?_⟩
    · have hdone : Reads (s.pushLetters cs) [] (s.pushLetters cs) := .done (by
        rw [State.pushLetters, hs]
        rfl)
      rw [quoteAny_singleton, ← List.append_nil (Pattern.quote cs)]
      exact hdone.quote hs cs
    · simp [State.pushLetters, hempty, literalItem]
  | cons ds literals ih =>
    obtain ⟨t, hread, houter, hitems⟩ := ih (s := (s.pushLetters cs).alternate) hs rfl ds
    refine ⟨t, ?_, houter, ?_⟩
    · rw [quoteAny_cons_cons]
      have hverbose : (s.pushLetters cs).flags.verbose = false := by
        rw [State.pushLetters, hs]
        rfl
      exact (hread.step hverbose rfl (Nat.le_refl _)).quote hs cs
    · rw [hitems]
      simp [State.alternate, State.pushLetters, hempty, literalItem]

/-! ### The pattern that is read -/

theorem pattern_sequenceItem (items : List Item) :
    (sequenceItem items).pattern = joinSequence (items.reverse.map (·.pattern)) := by
  fun_cases sequenceItem items with
  | case1 => rfl
  | case2 => rfl
  | case3 => rfl

theorem pattern_toItem (b : Branches) : b.toItem.pattern =
    joinAlternatives ((sequenceItem b.sequence :: b.alternatives).reverse.map (·.pattern)) := by
  rw [Branches.toItem]
  split
  · rename_i item hitem
    rw [hitem]
    rfl
  · rfl

theorem foldl_max_le {heights : List Nat} {start bound : Nat} (hstart : start ≤ bound)
    (hall : ∀ height ∈ heights, height ≤ bound) : heights.foldl max start ≤ bound := by
  induction heights generalizing start with
  | nil => exact hstart
  | cons height heights ih =>
    rw [List.forall_mem_cons] at hall
    exact ih (Nat.max_le.2 ⟨hstart, hall.1⟩) hall.2

theorem maxHeight_le {items : List Item} {bound : Nat}
    (hall : ∀ item ∈ items, item.height ≤ bound) : maxHeight items ≤ bound :=
  foldl_max_le (Nat.zero_le bound) (List.forall_mem_map.2 hall)

theorem height_sequenceItem_le {items : List Item} {bound : Nat}
    (hall : ∀ item ∈ items, item.height ≤ bound) : (sequenceItem items).height ≤ bound + 1 := by
  fun_cases sequenceItem items with
  | case1 => exact Nat.zero_le _
  | case2 item => exact Nat.le_succ_of_le (hall item List.mem_cons_self)
  | case3 =>
    rw [Nat.add_comm bound]
    exact Nat.add_le_add_left (maxHeight_le hall) 1

theorem height_toItem_le {b : Branches} {bound : Nat}
    (hall : ∀ item ∈ sequenceItem b.sequence :: b.alternatives, item.height ≤ bound) :
    b.toItem.height ≤ bound + 1 := by
  rw [Branches.toItem]
  split
  · rename_i item hitem
    rw [hitem] at hall
    exact Nat.le_succ_of_le (hall item List.mem_cons_self)
  · rw [Nat.add_comm bound]
    exact Nat.add_le_add_left (maxHeight_le hall) 1

theorem pattern_literalItem (cs : List Char) : (literalItem cs).pattern = literal cs := by
  rw [literalItem, pattern_sequenceItem, List.reverse_reverse, List.map_map, literal]
  rfl

theorem height_literalItem_le (cs : List Char) : (literalItem cs).height ≤ 1 := by
  apply height_sequenceItem_le
  intro item hitem
  obtain ⟨c, -, rfl⟩ := List.mem_map.1 (List.mem_reverse.1 hitem)
  exact Nat.le_refl 0

/-- Quoted literals read as the choice between them, unless it is too large. -/
theorem parseUnder_quoteAny {literals : List (List Char)} (hne : literals ≠ []) :
    parseUnder .caseless (String.ofList (quoteAny literals)) =
      if 10 * pow2 20 < (choice literals).weight then .error .tooLarge
      else .ok (choice literals) := by
  obtain ⟨cs, others, rfl⟩ := List.exists_cons_of_ne_nil hne
  obtain ⟨t, hread, houter, hitems⟩ := reads_quoteAny (s := .initial .caseless) rfl rfl cs others
  have halternatives : (State.initial .caseless).current.alternatives = [] := rfl
  rw [halternatives, List.append_nil] at hitems
  have hpattern : t.current.toItem.pattern = choice (cs :: others) := by
    rw [pattern_toItem, hitems, List.reverse_reverse, List.map_map, choice]
    exact congrArg joinAlternatives (List.map_congr_left fun cs _ => pattern_literalItem cs)
  have hheight : t.current.toItem.height ≤ 2 := by
    apply height_toItem_le
    intro item hitem
    rw [hitems] at hitem
    obtain ⟨cs, -, rfl⟩ := List.mem_map.1 (List.mem_reverse.1 hitem)
    exact height_literalItem_le cs
  rw [parseUnder, String.toList_ofList]
  have hdeep : ¬ 250 < t.current.toItem.height := by omega
  simp only [hread _ (Nat.lt_succ_self _), houter, hpattern]
  rw [if_neg hdeep]
  rfl

/-! ### Its weight -/

theorem weight_letter_le (c : Char) : (letter c).weight ≤ 532 := by
  have hsingle : (CharSet.single c).weight ≤ 500 := by
    rw [CharSet.single, CharSet.weight]
    split <;> omega
  rw [letter]
  split
  · rw [weight]
    omega
  · rw [weight, CharSet.weight]
    omega

theorem weight_joinSequence_le {ps : List Pattern} {bound : Nat}
    (hall : ∀ p ∈ ps, p.weight ≤ bound) : (joinSequence ps).weight ≤ bound * ps.length + 32 := by
  fun_induction joinSequence ps with
  | case1 => exact Nat.le_add_left _ _
  | case2 p =>
    have hp := hall p List.mem_cons_self
    rw [List.length_singleton]
    omega
  | case3 p rest hrest ih =>
    rw [List.forall_mem_cons] at hall
    have hp := hall.1
    have hps := ih hall.2
    rw [weight, List.length_cons, Nat.mul_succ]
    omega

theorem weight_joinAlternatives_le {ps : List Pattern} {bound : Nat}
    (hall : ∀ p ∈ ps, p.weight ≤ bound) :
    (joinAlternatives ps).weight ≤ (bound + 40) * ps.length + 32 := by
  fun_induction joinAlternatives ps with
  | case1 => exact Nat.le_add_left _ _
  | case2 p =>
    have hp := hall p List.mem_cons_self
    rw [List.length_singleton]
    omega
  | case3 p rest hrest ih =>
    rw [List.forall_mem_cons] at hall
    have hp := hall.1
    have hps := ih hall.2
    rw [weight, List.length_cons, Nat.mul_succ]
    omega

theorem weight_choice_le {literals : List (List Char)} {most : Nat}
    (hall : ∀ cs ∈ literals, cs.length ≤ most) :
    (choice literals).weight ≤ (532 * most + 72) * literals.length + 32 := by
  have hliteral : ∀ p ∈ literals.map literal, p.weight ≤ 532 * most + 32 := by
    intro p hp
    obtain ⟨cs, hcs, rfl⟩ := List.mem_map.1 hp
    have hletters : ∀ p ∈ cs.map letter, p.weight ≤ 532 :=
      List.forall_mem_map.2 fun c _ => weight_letter_le c
    have hweight := weight_joinSequence_le hletters
    have hlength := hall cs hcs
    rw [List.length_map] at hweight
    rw [literal]
    omega
  have hweight := weight_joinAlternatives_le hliteral
  rw [List.length_map] at hweight
  exact hweight

/-! ### Where it occurs -/

/-- The choice occurs where a literal does, whatever the case of its letters. -/
theorem occursIn_choice_iff {literals : List (List Char)} (hne : literals ≠ []) (text : String) :
    (choice literals).occursIn text = true ↔
      ∃ cs ∈ literals, OccursUpToCase cs text.toList := by
  rw [occursIn_iff (isPlain_choice literals)]
  simp only [fits_choice_iff hne]
  constructor
  · intro h
    obtain ⟨w, hw, cs, hcs, hsame⟩ := h
    exact ⟨cs, hcs, w, hw, hsame⟩
  · intro h
    obtain ⟨cs, hcs, w, hw, hsame⟩ := h
    exact ⟨w, hw, cs, hcs, hsame⟩

end TrackerTraffic.Pattern
