import TrackerTraffic.Proofs.ScanSteps

/-!
# Scanning the words of paths

The scans of names, integers, numbers, strings, pattern literals and bases keep step with their
readers.
-/

namespace TrackerTraffic.Path.Scan

variable {context : Context} {rest : List Char} {s : State}

/-! ### Names and integers -/

theorem follows_name (h : Stands context rest s) : Follows context s name (readName rest) := by
  refine (arrives_run isNameChar h).next fun s' h' => ?_
  rw [readName]
  split
  · rename_i hnone
    -- nothing was taken, so the scan still stands in front of the whole rest
    have hsame : (takeRun isNameChar rest).2 = rest := by
      have hsplit := List.takeWhile_append_dropWhile (p := isNameChar) (l := rest)
      have htaken : rest.takeWhile isNameChar = [] := hnone
      rwa [htaken] at hsplit
    rw [hsame] at h'
    exact follows_refuse h' _
  · exact follows_pure h' _ _

theorem arrives_signedRun_minus (p : Char → Bool) (h : Stands context ('-' :: rest) s) :
    Arrives context s (signedRun p) ('-' :: (takeRun p rest).1) (takeRun p rest).2 := by
  have hsplit : '-' :: rest.takeWhile p ++ rest.dropWhile p = '-' :: rest := by
    rw [List.cons_append, List.takeWhile_append_dropWhile]
  refine (arrives_position h).bind fun s₁ h₁ => (arrives_eat h₁).bind fun s₂ h₂ => ?_
  exact (arrives_skipWhile p h₂).bind fun s₃ h₃ => arrives_piece_here hsplit h h₃

theorem arrives_signedRun (p : Char → Bool) (h : Stands context rest s) (hne : rest.head? ≠ some '-') :
    Arrives context s (signedRun p) (takeRun p rest).1 (takeRun p rest).2 := by
  refine (arrives_position h).bind fun s₁ h₁ => (arrives_eat_none h₁ hne).bind fun s₂ h₂ => ?_
  refine (arrives_skipWhile p h₂).bind fun s₃ h₃ => ?_
  exact arrives_piece_here List.takeWhile_append_dropWhile h h₃

theorem arrives_splitInteger (h : Stands context rest s) :
    Arrives context s (signedRun Char.isDigit) (splitInteger rest).1 (splitInteger rest).2 := by
  unfold splitInteger
  split
  · exact arrives_signedRun_minus Char.isDigit h
  · rename_i hne
    exact arrives_signedRun Char.isDigit h (head?_ne_some hne)

theorem follows_integer (h : Stands context rest s) : Follows context s integer (readIndex rest) := by
  unfold readIndex
  split
  · rename_i n hn
    refine (arrives_splitInteger h).next fun s' h' => ?_
    simp only [hn]
    exact follows_pure h' n _
  · rename_i hn
    refine (arrives_splitInteger h).next fun s' h' => ?_
    simp only [hn]
    exact follows_refuse h' _

theorem follows_number {c : Char} (h : Stands context (c :: rest) s)
    (hc : c = '-' ∨ c.isDigit = true) : Follows context s number (readNumber c rest) := by
  have htext : Arrives context s (signedRun isNumberChar) (c :: (takeRun isNumberChar rest).1)
      (takeRun isNumberChar rest).2 := by
    by_cases hminus : c = '-'
    · subst hminus
      exact arrives_signedRun_minus isNumberChar h
    · have hdigit : isNumberChar c = true := by
        simp [isNumberChar, hc.resolve_left hminus]
      have hrun := arrives_signedRun isNumberChar h (by simpa using hminus)
      rwa [takeRun, List.takeWhile_cons_of_pos hdigit, List.dropWhile_cons_of_pos hdigit] at hrun
  refine htext.next fun s' h' => ?_
  simp only [readNumber]
  cases numberValue? (c :: (takeRun isNumberChar rest).1) with
  | none => exact follows_refuse h' _
  | some v => exact follows_pure h' v _

/-! ### Strings -/

theorem follows_stringTail (quote : Char) {n : Nat} (h : Stands context rest s)
    (hn : rest.length < n) :
    Follows context s (stringTail quote n) (readStringTail quote rest) := by
  induction n generalizing rest s with
  | zero => exact absurd hn (Nat.not_lt_zero _)
  | succ n ih =>
    rw [stringTail, readStringTail.eq_def]
    refine (arrives_peek h).next fun s₁ h₁ => ?_
    cases rest with
    | nil => exact follows_refuse h₁ _
    | cons c rest =>
      rw [List.length_cons] at hn
      refine (arrives_advance_one h₁).next fun s₂ h₂ => ?_
      dsimp only
      split
      · exact follows_pure h₂ _ _
      split
      · cases rest with
        | nil => exact (arrives_peek h₂).next fun s₃ h₃ => follows_refuse h₃ _
        | cons e rest =>
          rw [List.length_cons] at hn
          refine (arrives_peek h₂).next fun s₃ h₃ => (arrives_advance_one h₃).next fun s₄ h₄ => ?_
          exact (ih h₄ (by omega)).bind fun taken s₅ h₅ => follows_pure h₅ _ _
      · exact (ih h₂ (by omega)).bind fun taken s₃ h₃ => follows_pure h₃ _ _

theorem follows_string {quote : Char} (h : Stands context (quote :: rest) s) :
    Follows context s string (readString quote rest) := by
  refine (arrives_peek h).next fun s₁ h₁ => (arrives_advance_one h₁).next fun s₂ h₂ => ?_
  refine (arrives_bound h₂).next fun s₃ h₃ => ?_
  have hbound := h₃.bound_le
  exact (follows_stringTail quote h₃ (by omega)).bind fun taken s₄ h₄ => follows_pure h₄ _ _

/-! ### Pattern literals -/

theorem follows_patternText (inClass : Bool) {n : Nat} (h : Stands context rest s)
    (hn : rest.length < n) :
    Follows context s (patternText inClass n) (readPatternText inClass rest) := by
  induction n generalizing inClass rest s with
  | zero => exact absurd hn (Nat.not_lt_zero _)
  | succ n ih =>
    rw [patternText, readPatternText.eq_def]
    refine (arrives_peek h).next fun s₁ h₁ => ?_
    cases rest with
    | nil => exact follows_refuse h₁ _
    | cons c rest =>
      rw [List.length_cons] at hn
      refine (arrives_advance_one h₁).next fun s₂ h₂ => ?_
      dsimp only
      -- a slash that ends the literal is none of the signs that the scan looks for first
      by_cases hclosing : (c = '/' && !inClass) = true
      · obtain ⟨rfl, rfl⟩ : c = '/' ∧ inClass = false := by simpa using hclosing
        rw [if_neg (by decide), if_neg (by decide), if_neg (by decide)]
        exact follows_pure h₂ _ _
      rw [if_neg hclosing, if_neg hclosing]
      split
      · cases rest with
        | nil => exact (arrives_peek h₂).next fun s₃ h₃ => follows_refuse h₃ _
        | cons e rest =>
          rw [List.length_cons] at hn
          refine (arrives_peek h₂).next fun s₃ h₃ => (arrives_advance_one h₃).next fun s₄ h₄ => ?_
          exact (ih inClass h₄ (by omega)).bind fun taken s₅ h₅ => follows_pure h₅ _ _
      split
      · exact (ih true h₂ (by omega)).bind fun taken s₃ h₃ => follows_pure h₃ _ _
      split
      · exact (ih false h₂ (by omega)).bind fun taken s₃ h₃ => follows_pure h₃ _ _
      · exact (ih inClass h₂ (by omega)).bind fun taken s₃ h₃ => follows_pure h₃ _ _

theorem follows_patternFlags {n : Nat} (h : Stands context rest s) (hn : rest.length < n) :
    Follows context s (patternFlags n) (readPatternFlags rest) := by
  induction n generalizing rest s with
  | zero => exact absurd hn (Nat.not_lt_zero _)
  | succ n ih =>
    rw [patternFlags, readPatternFlags.eq_def]
    refine (arrives_peek h).next fun s₁ h₁ => ?_
    cases rest with
    | nil => exact follows_pure h₁ _ _
    | cons c rest =>
      rw [List.length_cons] at hn
      dsimp only [List.head?_cons]
      by_cases hletter : c.isAlpha = true
      · have hread : ¬ (!c.isAlpha) = true := by simp [hletter]
        rw [if_pos hletter, if_neg hread]
        refine (arrives_advance_one h₁).next fun s₂ h₂ => ?_
        split_ifs
        · exact (ih h₂ (by omega)).bind fun taken s₃ h₃ => follows_pure h₃ _ _
        · exact (ih h₂ (by omega)).widen _
        · exact follows_refuse h₂ _
      · rw [if_neg hletter, if_pos (by simpa using hletter)]
        exact follows_pure h₁ _ _

theorem follows_pattern (h : Stands context ('/' :: rest) s) :
    Follows context s pattern (readPattern rest) := by
  refine (arrives_demand h).next fun s₁ h₁ => (arrives_bound h₁).next fun s₂ h₂ => ?_
  have hbound := h₂.bound_le
  refine (follows_patternText false h₂ (by omega)).bind fun literal s₃ h₃ => ?_
  refine (arrives_bound h₃).next fun s₄ h₄ => ?_
  have hbound₄ := h₄.bound_le
  refine (follows_patternFlags h₄ (by omega)).bind fun flags s₅ h₅ => ?_
  dsimp only
  cases Pattern.parse _ with
  | ok p => exact follows_pure h₅ _ _
  | error _ => exact follows_refuse h₅ _

/-! ### Bases and accessors in brackets -/

theorem follows_keyOrCurrent (h : Stands context ('@' :: rest) s) :
    Follows context s base (readBase ('@' :: rest)) := by
  refine (arrives_peek h).next fun s₁ h₁ => (arrives_advance_one h₁).next fun s₂ h₂ => ?_
  rw [readBase, if_pos rfl]
  split
  · rename_i hkey
    have hsplit : keyName ++ rest.drop keyName.length = rest := by
      obtain ⟨behind, rfl⟩ := List.isPrefixOf_iff_prefix.1 hkey
      rw [List.drop_left]
    rw [← hsplit] at h₂
    exact (arrives_eatWord keyName h₂).next fun s₃ h₃ => follows_pure h₃ _ _
  · rename_i hother
    refine (arrives_eatWord_none h₂ ?_).next fun s₃ h₃ => follows_pure h₃ _ _
    rwa [← List.isPrefixOf_iff_prefix]

theorem follows_base (h : Stands context rest s) : Follows context s base (readBase rest) := by
  cases rest with
  | nil => exact (arrives_peek h).next fun s₁ h₁ => follows_refuse h₁ _
  | cons c rest =>
    by_cases hkey : c = '@'
    · subst hkey
      exact follows_keyOrCurrent h
    rw [readBase, if_neg hkey]
    refine (arrives_peek h).next fun s₁ h₁ => ?_
    dsimp only [List.head?_cons]
    rw [if_neg hkey]
    split
    · exact (follows_string h₁).bind fun taken s₂ h₂ => follows_pure h₂ _ _
    split
    · rename_i hslash
      subst hslash
      exact (follows_pattern h₁).bind fun taken s₂ h₂ => follows_pure h₂ _ _
    split
    · rename_i hnumber
      exact (follows_number h₁ (by simpa using hnumber)).bind fun taken s₂ h₂ =>
        follows_pure h₂ _ _
    split
    · rename_i hletter
      have hident : isIdentChar c = true := by simp [isIdentChar, Text.isAlphanumeric, hletter]
      have hrun := arrives_run isIdentChar h₁
      rw [takeRun, List.takeWhile_cons_of_pos hident, List.dropWhile_cons_of_pos hident] at hrun
      refine hrun.next fun s₂ h₂ => ?_
      dsimp only [takeRun]
      cases identBase? _ with
      | none => exact follows_refuse h₂ _
      | some base => exact follows_pure h₂ _ _
    · exact follows_refuse h₁ _

theorem follows_accessor (h : Stands context rest s) :
    Follows context s accessor (readAccessor rest) := by
  refine (arrives_peek h).next fun s₁ h₁ => ?_
  cases rest with
  | nil => exact (follows_integer h₁).bind fun taken s₂ h₂ => follows_pure h₂ _ _
  | cons c rest =>
    dsimp only [List.head?_cons, readAccessor]
    split
    · exact (follows_string h₁).bind fun taken s₂ h₂ => follows_pure h₂ _ _
    · exact (follows_integer h₁).bind fun taken s₂ h₂ => follows_pure h₂ _ _

theorem follows_bracketAccessor (h : Stands context rest s) :
    Follows context s bracketAccessor (readBracketAccessor rest) := by
  refine (arrives_skipBlanks h).next fun s₁ h₁ => (follows_accessor h₁).bind fun taken s₂ h₂ => ?_
  exact follows_closing h₂ ']' fun closing s₃ h₃ => follows_pure h₃ _ _

theorem arrives_memberName (h : Stands context ('.' :: rest) s)
    (hname : (takeRun isIdentChar rest).1 ≠ []) :
    Arrives context s memberName (String.ofList (takeRun isIdentChar rest).1)
      (skipBlank (takeRun isIdentChar rest).2) := by
  refine (arrives_advance_one h).bind fun s₁ h₁ => (arrives_run isIdentChar h₁).bind fun s₂ h₂ => ?_
  rw [if_neg hname]
  exact (arrives_skipBlanks h₂).bind fun s₃ h₃ => arrives_pure h₃ _

theorem follows_memberName_nil (h : Stands context ('.' :: rest) s)
    (hname : (takeRun isIdentChar rest).1 = []) :
    Follows context s memberName
      (stuck (takeRun isIdentChar rest).2 "expected member name" : Reading String rest.length) := by
  refine (arrives_advance_one h).next fun s₁ h₁ => (arrives_run isIdentChar h₁).next fun s₂ h₂ => ?_
  rw [if_pos hname]
  exact follows_refuse h₂ _

end TrackerTraffic.Path.Scan
