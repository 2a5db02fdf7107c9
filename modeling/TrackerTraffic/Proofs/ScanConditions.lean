import TrackerTraffic.Proofs.ScanOperands

/-!
# Scanning conditions

The scans of comparisons and of the conditions joined from them keep step with their readers where
their rules may be entered.
-/

namespace TrackerTraffic.Path.Scan

variable {context : Context} {rest : List Char} {s : State}

/-! ### Comparisons -/

/-- The comparison has its sign at the start of the text. -/
def Signed (cs : List Char) (comparison : Comparison) : Bool :=
  comparison.sign.toList.isPrefixOf cs

theorem find?_signs_none {cs : List Char} (h : takeComparison? cs = none) :
    signs.find? (Signed cs) = none := by
  refine List.find?_eq_none.2 fun comparison _ hsigned => ?_
  obtain ⟨rest, rfl⟩ := List.isPrefixOf_iff_prefix.1 hsigned
  exact takeComparison?_ne_none comparison rest h

theorem find?_signs {cs : List Char} {comparison : Comparison}
    (h : takeComparison? cs = some (comparison, rest)) :
    signs.find? (Signed cs) = some comparison := by
  -- a short sign is taken where no equals sign makes it a longer one
  have hshort : ∀ {next : List Char}, (∀ later, next = '=' :: later → False) →
      ['='].isPrefixOf next = false := by
    intro next hnext
    rw [Bool.eq_false_iff, ne_eq, List.isPrefixOf_iff_prefix]
    exact fun ⟨later, hlater⟩ => hnext later hlater.symm
  unfold takeComparison? at h
  split at h
  case h_9 => cases h
  case h_3 hlonger | h_4 hlonger | h_7 hlonger | h_8 hlonger =>
    obtain ⟨rfl, rfl⟩ := Prod.mk.inj (Option.some.inj h)
    have hnext := hshort hlonger
    simp [signs, Signed, Comparison.sign, hnext]
  all_goals
    obtain ⟨rfl, rfl⟩ := Prod.mk.inj (Option.some.inj h)
    rfl

theorem arrives_sign_some {comparison : Comparison} {comparisons : List Comparison}
    (h : Stands context (comparison.sign.toList ++ rest) s)
    (hfind : comparisons.find? (Signed (comparison.sign.toList ++ rest)) = some comparison) :
    Arrives context s (sign comparisons) (some comparison) rest := by
  induction comparisons generalizing s with
  | nil => cases hfind
  | cons first others ih =>
    rw [sign]
    by_cases hfirst : Signed (comparison.sign.toList ++ rest) first = true
    · rw [List.find?_cons_of_pos hfirst] at hfind
      obtain rfl := Option.some.inj hfind
      exact (arrives_eatWord _ h).bind fun s' h' => arrives_pure h' _
    · rw [List.find?_cons_of_neg hfirst] at hfind
      rw [Signed, List.isPrefixOf_iff_prefix] at hfirst
      exact (arrives_eatWord_none h hfirst).bind fun s' h' => ih h' hfind

theorem arrives_sign_none {comparisons : List Comparison} (h : Stands context rest s)
    (hfind : comparisons.find? (Signed rest) = none) :
    Arrives context s (sign comparisons) none rest := by
  induction comparisons generalizing s with
  | nil => exact arrives_pure h none
  | cons first others ih =>
    rw [sign]
    by_cases hfirst : Signed rest first = true
    · rw [List.find?_cons_of_pos hfirst] at hfind
      cases hfind
    · rw [List.find?_cons_of_neg hfirst] at hfind
      rw [Signed, List.isPrefixOf_iff_prefix] at hfirst
      exact (arrives_eatWord_none h hfirst).bind fun s' h' => ih h' hfind

theorem follows_comparison {running : List Call} (h : Stands context rest s)
    (hadmits : Admits running .operand s.position) :
    Follows context s (comparison running) (readComparison rest) := by
  unfold comparison readComparison
  refine (arrives_bound h).next fun s₀ h₀ => ?_
  have hadmits₀ := hadmits.mono (h.position_le h₀ (Nat.le_refl _))
  have hbound := h₀.bound_le
  refine (follows_operand h₀ hadmits₀ (by omega)).bind fun left s₁ h₁ => ?_
  refine (arrives_skipBlanks h₁).next fun s₂ h₂ => ?_
  dsimp only
  split
  · rename_i hnone
    exact (arrives_sign_none h₂ (find?_signs_none hnone)).next fun s₃ h₃ => follows_pure h₃ _ _
  · rename_i comparison behind hsome
    have hfind := find?_signs hsome
    have hshorter := left.shorter
    have hskip := skipBlank_length left.rest
    have hbehind := takeComparison?_length hsome
    rw [eq_of_takeComparison? hsome] at h₂ hfind
    refine (arrives_sign_some h₂ hfind).next fun s₃ h₃ => (arrives_bound h₃).next fun s₄ h₄ => ?_
    have hbefore := hadmits.later (h.position_lt h₄ (by omega))
    refine (follows_operand h₄ (hbefore.admits _) (by omega)).bind fun right s₅ h₅ => ?_
    exact follows_pure h₅ _ _

/-! ### Conditions -/

-- The outer rules enter the inner ones without taking a character: the 2, the 1 and the 0 count
-- these steps.
mutual
theorem follows_disjunction {cs : List Char} {s : State} {running : List Call} {n : Nat}
    (h : Stands context cs s) (hadmits : Admits running .disjunction s.position)
    (hn : 4 * cs.length + 2 < n) :
    Follows context s (disjunction running n) (readOr cs) := by
  obtain ⟨n, rfl⟩ := Nat.exists_eq_add_one.2 (Nat.zero_lt_of_lt hn)
  rw [disjunction, readOr.eq_def]
  refine (arrives_enter h hadmits).next fun s₁ h₁ => ?_
  have hle := h.position_le h₁ (Nat.le_refl _)
  refine (follows_conjunction h₁ (hadmits.enter (by decide) hle) (by omega)).bind
    fun first s₂ h₂ => ?_
  have hshorter := first.shorter
  have hbefore := hadmits.before (h.position_lt h₂ hshorter)
  exact (follows_disjunctionTail h₂ hbefore first.value (by omega)).widen _
termination_by 4 * cs.length + 2

theorem follows_disjunctionTail {cs : List Char} {s : State} {running : List Call} {n : Nat}
    (h : Stands context cs s) (hbefore : AllBefore running s.position) (left : Filter)
    (hn : 4 * cs.length < n) :
    Follows context s (disjunctionTail running left n) (readOrTail left cs) := by
  obtain ⟨n, rfl⟩ := Nat.exists_eq_add_one.2 (Nat.zero_lt_of_lt hn)
  rw [disjunctionTail, readOrTail.eq_def]
  refine (arrives_position h).next fun s₁ h₁ => (arrives_skipBlanks h₁).next fun s₂ h₂ => ?_
  dsimp only
  split
  · rename_i rest hsign
    have hrest := Nat.lt_of_succ_lt (length_lt_of_skipBlank hsign)
    rw [hsign] at h₂
    refine (arrives_eatWord ['|', '|'] h₂).next fun s₃ h₃ => ?_
    have hbefore₃ := hbefore.mono (h.position_le h₃ hrest.le)
    refine (follows_conjunction h₃ (hbefore₃.admits _) (by omega)).bind fun right s₄ h₄ => ?_
    have hshorter := right.shorter
    refine follows_round h hbefore h₄ (by omega) fun s₅ h₅ hbefore₅ => ?_
    exact (follows_disjunctionTail h₅ hbefore₅ _ (by omega)).widen _
  · rename_i hsign
    have hnone : ¬ ['|', '|'] <+: skipBlank cs := fun ⟨rest, hrest⟩ => hsign rest hrest.symm
    exact (arrives_eatWord_none h₂ hnone).next fun s₃ h₃ => follows_pure h₃ _ _
termination_by 4 * cs.length

theorem follows_conjunction {cs : List Char} {s : State} {running : List Call} {n : Nat}
    (h : Stands context cs s) (hadmits : Admits running .conjunction s.position)
    (hn : 4 * cs.length + 1 < n) :
    Follows context s (conjunction running n) (readAnd cs) := by
  obtain ⟨n, rfl⟩ := Nat.exists_eq_add_one.2 (Nat.zero_lt_of_lt hn)
  rw [conjunction, readAnd.eq_def]
  refine (arrives_enter h hadmits).next fun s₁ h₁ => ?_
  have hle := h.position_le h₁ (Nat.le_refl _)
  refine (follows_unary h₁ (hadmits.enter (by decide) hle) (by omega)).bind fun first s₂ h₂ => ?_
  have hshorter := first.shorter
  have hbefore := hadmits.before (h.position_lt h₂ hshorter)
  exact (follows_conjunctionTail h₂ hbefore first.value (by omega)).widen _
termination_by 4 * cs.length + 1

theorem follows_conjunctionTail {cs : List Char} {s : State} {running : List Call} {n : Nat}
    (h : Stands context cs s) (hbefore : AllBefore running s.position) (left : Filter)
    (hn : 4 * cs.length < n) :
    Follows context s (conjunctionTail running left n) (readAndTail left cs) := by
  obtain ⟨n, rfl⟩ := Nat.exists_eq_add_one.2 (Nat.zero_lt_of_lt hn)
  rw [conjunctionTail, readAndTail.eq_def]
  refine (arrives_position h).next fun s₁ h₁ => (arrives_skipBlanks h₁).next fun s₂ h₂ => ?_
  dsimp only
  split
  · rename_i rest hsign
    have hrest := Nat.lt_of_succ_lt (length_lt_of_skipBlank hsign)
    rw [hsign] at h₂
    refine (arrives_eatWord ['&', '&'] h₂).next fun s₃ h₃ => ?_
    have hbefore₃ := hbefore.mono (h.position_le h₃ hrest.le)
    refine (follows_unary h₃ (hbefore₃.admits _) (by omega)).bind fun right s₄ h₄ => ?_
    have hshorter := right.shorter
    refine follows_round h hbefore h₄ (by omega) fun s₅ h₅ hbefore₅ => ?_
    exact (follows_conjunctionTail h₅ hbefore₅ _ (by omega)).widen _
  · rename_i hsign
    have hnone : ¬ ['&', '&'] <+: skipBlank cs := fun ⟨rest, hrest⟩ => hsign rest hrest.symm
    exact (arrives_eatWord_none h₂ hnone).next fun s₃ h₃ => follows_pure h₃ _ _
termination_by 4 * cs.length

theorem follows_unary {cs : List Char} {s : State} {running : List Call} {n : Nat}
    (h : Stands context cs s) (hadmits : Admits running .unary s.position)
    (hn : 4 * cs.length < n) :
    Follows context s (unary running n) (readUnary cs) := by
  obtain ⟨n, rfl⟩ := Nat.exists_eq_add_one.2 (Nat.zero_lt_of_lt hn)
  rw [unary, readUnary.eq_def]
  have hskip := skipBlank_length cs
  refine (arrives_enter h hadmits).next fun s₁ h₁ => (arrives_skipBlanks h₁).next fun s₂ h₂ => ?_
  dsimp only
  split
  · rename_i rest hnot
    have hrest := length_lt_of_skipBlank hnot
    rw [hnot] at h₂
    refine (arrives_peek h₂).next fun s₃ h₃ => (arrives_peekAt h₃ 1).next fun s₄ h₄ => ?_
    have hlook : ('!' :: rest)[1]? = rest.head? := by
      rw [List.getElem?_cons_succ, List.head?_eq_getElem?]
    rw [hlook]
    by_cases hequals : rest.head? = some '='
    · rw [if_neg (fun hcondition => hcondition.2 hequals), if_pos hequals]
      refine (arrives_eat_none h₄ (by simp)).next fun s₅ h₅ => ?_
      rw [hnot] at hskip
      exact (follows_comparison h₅ (hadmits.enter (by decide) (h.position_le h₅ hskip))).widen _
    · rw [if_pos ⟨List.head?_cons, hequals⟩, if_neg hequals]
      refine (arrives_advance_one h₄).next fun s₅ h₅ => ?_
      have hbefore := hadmits.before (h.position_lt h₅ hrest)
      refine (follows_unary h₅ (hbefore.admits _) (by omega)).bind fun inner s₆ h₆ => ?_
      exact follows_pure h₆ _ _
  · rename_i rest hopen
    have hrest := length_lt_of_skipBlank hopen
    rw [hopen] at h₂
    refine (arrives_peek h₂).next fun s₃ h₃ => (arrives_peekAt h₃ 1).next fun s₄ h₄ => ?_
    rw [if_neg (by simp)]
    refine (arrives_eat h₄).next fun s₅ h₅ => ?_
    have hbefore := hadmits.before (h.position_lt h₅ hrest)
    refine (follows_disjunction h₅ (hbefore.admits _) (by omega)).bind fun condition s₆ h₆ => ?_
    exact follows_closing h₆ ')' fun closing s₇ h₇ => follows_pure h₇ _ _
  · rename_i hnot hopen
    refine (arrives_peek h₂).next fun s₃ h₃ => (arrives_peekAt h₃ 1).next fun s₄ h₄ => ?_
    rw [if_neg (fun hcondition => head?_ne_some hnot hcondition.1)]
    refine (arrives_eat_none h₄ (head?_ne_some hopen)).next fun s₅ h₅ => ?_
    exact (follows_comparison h₅ (hadmits.enter (by decide) (h.position_le h₅ hskip))).widen _
termination_by 4 * cs.length
end

end TrackerTraffic.Path.Scan
