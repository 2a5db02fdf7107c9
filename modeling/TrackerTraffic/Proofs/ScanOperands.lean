import TrackerTraffic.Proofs.ReaderRules
import TrackerTraffic.Proofs.ScanWords

/-!
# Scanning operands

A scan of an operand keeps step with its reader where the rule may be entered: what is running was
entered further in front, or at the same place by a rule that is further out.
-/

namespace TrackerTraffic.Path.Scan

variable {context : Context} {rest rest' : List Char} {s s' : State}

/-! ### Rules that are running -/

/-- How far out a rule is in the grammar.  At its own place a rule only enters rules further in. -/
def Rule.rank : Rule → Nat
  | .operand => 0
  | .unary => 1
  | .conjunction => 2
  | .disjunction => 3

/-- What is running was entered in front of the position. -/
def AllBefore (running : List Call) (position : Nat) : Prop :=
  ∀ call ∈ running, call.position < position

/-- What is running was entered in front of the position, or there by a rule further out. -/
def Admits (running : List Call) (rule : Rule) (position : Nat) : Prop :=
  ∀ call ∈ running,
    call.position < position ∨ call.position = position ∧ rule.rank < call.rule.rank

section Running

variable {running : List Call} {rule inner : Rule} {position further : Nat}

theorem AllBefore.mono (h : AllBefore running position) (hle : position ≤ further) :
    AllBefore running further :=
  fun call hcall => Nat.lt_of_lt_of_le (h call hcall) hle

theorem AllBefore.admits (h : AllBefore running position) (rule : Rule) :
    Admits running rule position :=
  fun call hcall => .inl (h call hcall)

theorem Admits.mono (h : Admits running rule position) (hle : position ≤ further) :
    Admits running rule further := by
  intro call hcall
  rcases h call hcall with hbefore | ⟨hsame, hout⟩
  · exact .inl (Nat.lt_of_lt_of_le hbefore hle)
  · rw [hsame]
    exact (Nat.lt_or_eq_of_le hle).imp_right fun heq => ⟨heq, hout⟩

/-- A running rule may enter one further in, from its own place on. -/
theorem Admits.enter (h : Admits running rule position) (hrank : inner.rank < rule.rank)
    (hle : position ≤ further) : Admits (⟨rule, position⟩ :: running) inner further := by
  refine List.forall_mem_cons.2 ⟨?_, fun call hcall => ?_⟩
  · exact (Nat.lt_or_eq_of_le hle).imp_right fun heq => ⟨heq, hrank⟩
  · exact (h.mono hle call hcall).imp_right fun hout => ⟨hout.1, Nat.lt_trans hrank hout.2⟩

theorem Admits.later (h : Admits running rule position) (hlt : position < further) :
    AllBefore running further := by
  intro call hcall
  rcases h call hcall with hbefore | ⟨hsame, -⟩
  · exact Nat.lt_trans hbefore hlt
  · rwa [hsame]

theorem Admits.before (h : Admits running rule position) (hlt : position < further) :
    AllBefore (⟨rule, position⟩ :: running) further :=
  List.forall_mem_cons.2 ⟨hlt, h.later hlt⟩

theorem arrives_enter (h : Stands context rest s) (hadmits : Admits running rule s.position) :
    Arrives context s (enter rule running) (⟨rule, s.position⟩ :: running) rest := by
  refine ⟨_, rfl, h.record (.entered ⟨rule, s.position⟩ running) ⟨h.inside, ?_⟩ rfl⟩
  intro earlier hearlier hrule
  refine (hadmits earlier hearlier).resolve_right fun hout => ?_
  exact Nat.lt_irrefl _ (hrule ▸ hout.2)

end Running

theorem Stands.position_lt (h : Stands context rest s) (h' : Stands context rest' s')
    (hlt : rest'.length < rest.length) : s.position < s'.position := by
  have hlength := h.position_add
  have hlength' := h'.position_add
  omega

theorem Stands.position_le (h : Stands context rest s) (h' : Stands context rest' s')
    (hle : rest'.length ≤ rest.length) : s.position ≤ s'.position := by
  have hlength := h.position_add
  have hlength' := h'.position_add
  omega

/-- A loop goes on behind a round that has left less of the text than there was. -/
theorem arrives_repeated (loop : Loop) (h : Stands context rest s) (h' : Stands context rest' s')
    (hlt : rest'.length < rest.length) :
    Arrives context s' (repeated loop (context.text.length - rest.length)) () rest' := by
  have hlength := h.position_add
  have hstart : context.text.length - rest.length < s'.position := by
    rw [← hlength, Nat.add_sub_cancel]
    exact h.position_lt h' hlt
  exact ⟨_, rfl, h'.record (.repeated loop _ s'.position) ⟨hstart, h'.inside⟩ rfl⟩

/-- What was in front of a round is in front of the next one. -/
theorem follows_round {α : Type} {limit : Nat} {running : List Call} {loop : Loop} {scan : Scan α}
    {reading : Reading α limit} (h : Stands context rest s) (hbefore : AllBefore running s.position)
    (h' : Stands context rest' s') (hlt : rest'.length < rest.length)
    (hnext : ∀ s'', Stands context rest' s'' → AllBefore running s''.position →
      Follows context s'' scan reading) :
    Follows context s' (repeated loop (context.text.length - rest.length) >>= fun _ => scan) reading := by
  refine (arrives_repeated loop h h' hlt).next fun s'' h'' => hnext s'' h'' ?_
  exact hbefore.mono (h.position_le h'' hlt.le)

/-! ### Operands -/

-- The bound goes down with each rule and round, the measure of the readers at least as fast.
mutual
theorem follows_operand {cs : List Char} {s : State} {running : List Call} {n : Nat}
    (h : Stands context cs s) (hadmits : Admits running .operand s.position)
    (hn : 4 * cs.length < n) :
    Follows context s (operand running n) (readOperand cs) := by
  obtain ⟨n, rfl⟩ := Nat.exists_eq_add_one.2 (Nat.zero_lt_of_lt hn)
  rw [operand, readOperand.eq_def]
  refine (arrives_enter h hadmits).next fun s₁ h₁ => (arrives_skipBlanks h₁).next fun s₂ h₂ => ?_
  refine (follows_base h₂).bind fun base s₃ h₃ => ?_
  have hskip := skipBlank_length cs
  have hshorter := base.shorter
  have hbefore := hadmits.before (h.position_lt h₃ (by omega))
  refine (follows_accessors h₃ hbefore (by omega)).bind fun accessors s₄ h₄ => ?_
  exact follows_pure h₄ _ _
termination_by 4 * cs.length

theorem follows_accessors {cs : List Char} {s : State} {running : List Call} {n : Nat}
    (h : Stands context cs s) (hbefore : AllBefore running s.position) (hn : 4 * cs.length < n) :
    Follows context s (accessors running n) (readAccessors cs) := by
  obtain ⟨n, rfl⟩ := Nat.exists_eq_add_one.2 (Nat.zero_lt_of_lt hn)
  rw [accessors]
  refine (arrives_position h).next fun s₁ h₁ => (arrives_peek h₁).next fun s₂ h₂ => ?_
  by_cases hpoint : cs.head? = some '.'
  · obtain ⟨tail, hcs⟩ := List.head?_eq_some_iff.1 hpoint
    have hlength : cs.length = tail.length + 1 := by rw [hcs, List.length_cons]
    rw [if_pos hpoint]
    rw [hcs] at h₂
    by_cases hname : (takeRun isIdentChar tail).1 = []
    · rw [hcs, readAccessors.eq_def]
      simp only [dif_pos hname]
      exact (follows_memberName_nil h₂ hname).stop
    have hrun := takeRun_length hname
    have hmember := arrives_memberName h₂ hname
    rw [hcs] at h ⊢
    rw [readAccessors.eq_def]
    simp only [dif_neg hname]
    split
    · rename_i inner hopen
      have hinner := length_lt_of_skipBlank hopen
      rw [hopen] at hmember
      refine hmember.next fun s₃ h₃ => (arrives_peek h₃).next fun s₄ h₄ => ?_
      rw [if_pos List.head?_cons]
      cases Method.ofName? _ with
      | none => exact follows_refuse h₄ _
      | some method =>
        have hbefore₄ := hbefore.mono (h.position_le h₄ (by simp only [List.length_cons]; omega))
        refine (follows_arguments h₄ hbefore₄ (by omega)).bind fun args s₅ h₅ => ?_
        have hshorter := args.shorter
        refine follows_round h hbefore h₅ (by rw [List.length_cons]; omega)
          fun s₆ h₆ hbefore₆ => ?_
        refine (follows_accessors h₆ hbefore₆ (by omega)).bind fun others s₇ h₇ => ?_
        exact follows_pure h₇ _ _
    · rename_i hclosed
      have hskip := skipBlank_length (takeRun isIdentChar tail).2
      refine hmember.next fun s₃ h₃ => (arrives_peek h₃).next fun s₄ h₄ => ?_
      rw [if_neg (head?_ne_some hclosed)]
      refine follows_round h hbefore h₄ (by rw [List.length_cons]; omega) fun s₅ h₅ hbefore₅ => ?_
      refine (follows_accessors h₅ hbefore₅ (by omega)).bind fun others s₆ h₆ => ?_
      exact follows_pure h₆ _ _
  rw [if_neg hpoint]
  refine (arrives_peek h₂).next fun s₃ h₃ => ?_
  by_cases hopen : cs.head? = some '['
  · obtain ⟨tail, hcs⟩ := List.head?_eq_some_iff.1 hopen
    have hlength : cs.length = tail.length + 1 := by rw [hcs, List.length_cons]
    rw [if_pos hopen]
    rw [hcs] at h₃
    refine (arrives_advance_one h₃).next fun s₄ h₄ => ?_
    rw [hcs] at h ⊢
    rw [readAccessors.eq_def]
    refine (follows_bracketAccessor h₄).bind fun accessor s₅ h₅ => ?_
    have hshorter := accessor.shorter
    refine follows_round h hbefore h₅ (by rw [List.length_cons]; omega) fun s₆ h₆ hbefore₆ => ?_
    refine (follows_accessors h₆ hbefore₆ (by omega)).bind fun others s₇ h₇ => ?_
    exact follows_pure h₇ _ _
  rw [if_neg hopen, readAccessors_end hpoint hopen]
  exact follows_pure h₃ _ _
termination_by 4 * cs.length

theorem follows_arguments {cs : List Char} {s : State} {running : List Call} {n : Nat}
    (h : Stands context ('(' :: cs) s) (hbefore : AllBefore running s.position)
    (hn : 4 * cs.length + 2 < n) :
    Follows context s (arguments running n) (readArguments cs) := by
  obtain ⟨n, rfl⟩ := Nat.exists_eq_add_one.2 (Nat.zero_lt_of_lt hn)
  rw [arguments, readArguments.eq_def]
  have hskip := skipBlank_length cs
  refine (arrives_demand h).next fun s₁ h₁ => (arrives_skipBlanks h₁).next fun s₂ h₂ => ?_
  dsimp only
  split
  · rename_i rest hclose
    rw [hclose] at h₂
    exact (arrives_eat h₂).next fun s₃ h₃ => follows_pure h₃ _ _
  · rename_i hopen
    refine (arrives_eat_none h₂ (head?_ne_some hopen)).next fun s₃ h₃ => ?_
    have hbefore₃ := hbefore.mono (h.position_le h₃ (Nat.le_succ_of_le hskip))
    exact (follows_argumentList h₃ hbefore₃ (by omega)).widen _
termination_by 4 * cs.length + 2

theorem follows_argumentList {cs : List Char} {s : State} {running : List Call} {n : Nat}
    (h : Stands context cs s) (hbefore : AllBefore running s.position)
    (hn : 4 * cs.length + 1 < n) :
    Follows context s (argumentList running n) (readArgumentList cs) := by
  obtain ⟨n, rfl⟩ := Nat.exists_eq_add_one.2 (Nat.zero_lt_of_lt hn)
  rw [argumentList, readArgumentList.eq_def]
  refine (arrives_position h).next fun s₁ h₁ => ?_
  have hbefore₁ := hbefore.mono (h.position_le h₁ (Nat.le_refl _))
  refine (follows_operand h₁ (hbefore₁.admits _) (by omega)).bind fun first s₂ h₂ => ?_
  have hskip := skipBlank_length first.rest
  have hshorter := first.shorter
  refine (arrives_skipBlanks h₂).next fun s₃ h₃ => ?_
  dsimp only
  split
  · rename_i after hclose
    rw [hclose] at h₃
    exact (arrives_eat h₃).next fun s₄ h₄ => follows_pure h₄ _ _
  · rename_i hopen
    refine (arrives_eat_none h₃ (head?_ne_some hopen)).next fun s₄ h₄ => ?_
    refine (follows_demand h₄ ',').bind fun comma s₅ h₅ => ?_
    have hcomma := comma.shorter
    refine follows_round h hbefore h₅ (by omega) fun s₆ h₆ hbefore₆ => ?_
    refine (follows_argumentList h₆ hbefore₆ (by omega)).bind fun others s₇ h₇ => ?_
    exact follows_pure h₇ _ _
termination_by 4 * cs.length + 1
end

end TrackerTraffic.Path.Scan
