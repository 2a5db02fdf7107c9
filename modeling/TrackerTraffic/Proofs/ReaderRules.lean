import TrackerTraffic.Proofs.PathReader

/-!
# The rules of the grammar

What a successful reading of an operand or a condition consists of, one rule for each reader: the
parts that were read, the signs between them behind blanks, and what is left.
-/

namespace TrackerTraffic.Path

/-! ### Readers in a row -/

section Rows

variable {α β γ : Type} {limit limit' : Nat} {reading : Reading α limit} {rest : List Char}

theorem reads_same_iff {shorter : ∀ first : Taken α limit, first.rest.length < limit'} {value : α} :
    Reads (reading >>= fun first => pure ⟨first.value, first.rest, shorter first⟩) value rest ↔
      Reads reading value rest := by
  constructor
  · intro h
    obtain ⟨_, _, _, hread, hpure⟩ := h.of_bind
    obtain ⟨rfl, rfl⟩ := hpure.of_pure
    exact hread
  · intro hread
    exact hread.bind fun _ => ⟨_, rfl⟩

theorem reads_map_iff {f : α → β} {shorter : ∀ first : Taken α limit, first.rest.length < limit'}
    {value : β} :
    Reads (reading >>= fun first => pure ⟨f first.value, first.rest, shorter first⟩) value rest ↔
      ∃ a, Reads reading a rest ∧ value = f a := by
  constructor
  · intro h
    obtain ⟨a, _, _, ha, hpure⟩ := h.of_bind
    obtain ⟨rfl, rfl⟩ := hpure.of_pure
    exact ⟨a, ha, rfl⟩
  · rintro ⟨a, ha, rfl⟩
    exact ha.bind fun _ => ⟨_, rfl⟩

/-- One reader takes up what the other one left, and both values count. -/
theorem reads_both_iff {bound : List Char → Nat} {r : α → (cs : List Char) → Reading β (bound cs)}
    {f : α → β → γ}
    {shorter : ∀ (first : Taken α limit) (second : Taken β (bound first.rest)),
      second.rest.length < limit'} {value : γ} :
    Reads (reading >>= fun first => r first.value first.rest >>= fun second =>
        pure ⟨f first.value second.value, second.rest, shorter first second⟩) value rest ↔
      ∃ a b after, Reads reading a after ∧ Reads (r a after) b rest ∧ value = f a b := by
  constructor
  · intro h
    obtain ⟨a, after, _, ha, h⟩ := h.of_bind
    obtain ⟨b, hb, rfl⟩ := reads_map_iff.1 h
    exact ⟨a, b, after, ha, hb, rfl⟩
  · rintro ⟨a, b, after, ha, hb, rfl⟩
    exact ha.bind fun _ => hb.bind fun _ => ⟨_, rfl⟩

/-- One reader takes up what the other one left, and its value counts. -/
theorem reads_second_iff {bound : List Char → Nat} {r : α → (cs : List Char) → Reading β (bound cs)}
    {shorter : ∀ (first : Taken α limit) (second : Taken β (bound first.rest)),
      second.rest.length < limit'} {value : β} :
    Reads (reading >>= fun first => r first.value first.rest >>= fun second =>
        pure ⟨second.value, second.rest, shorter first second⟩) value rest ↔
      ∃ a after, Reads reading a after ∧ Reads (r a after) value rest := by
  constructor
  · intro h
    obtain ⟨a, after, _, ha, h⟩ := h.of_bind
    exact ⟨a, after, ha, reads_same_iff.1 h⟩
  · rintro ⟨a, after, ha, hvalue⟩
    exact ha.bind fun _ => hvalue.bind fun _ => ⟨_, rfl⟩

end Rows

/-! ### Operands -/

section Operands

variable {cs rest : List Char}

theorem reads_operand_iff {operand : Operand} :
    Reads (readOperand cs) operand rest ↔ ∃ base accessors after,
      Reads (readBase (skipBlank cs)) base after ∧ Reads (readAccessors after) accessors rest ∧
        operand = .mk base accessors := by
  rw [readOperand.eq_def]
  exact reads_both_iff (r := fun _ => readAccessors) (f := Operand.mk)

/-- Behind a point stands the name of a method with its arguments, or that of a member. -/
theorem reads_point_iff {accessors : List Accessor} :
    Reads (readAccessors ('.' :: cs)) accessors rest ↔
      (takeRun isIdentChar cs).1 ≠ [] ∧
        ((∃ inner method args after others,
            skipBlank (takeRun isIdentChar cs).2 = '(' :: inner ∧
            Method.ofName? (String.ofList (takeRun isIdentChar cs).1) = some method ∧
            Reads (readArguments inner) args after ∧ Reads (readAccessors after) others rest ∧
            accessors = .call method args :: others) ∨
          ((∀ inner, skipBlank (takeRun isIdentChar cs).2 ≠ '(' :: inner) ∧
            ∃ others, Reads (readAccessors (skipBlank (takeRun isIdentChar cs).2)) others rest ∧
              accessors = .member (String.ofList (takeRun isIdentChar cs).1) :: others)) := by
  rw [readAccessors.eq_def]
  by_cases hname : (takeRun isIdentChar cs).1 = []
  · simp only [dif_pos hname]
    exact ⟨fun h => absurd h not_reads_stuck, fun h => absurd hname h.1⟩
  · simp only [dif_neg hname]
    split
    · rename_i inner hopen
      cases hmethod : Method.ofName? (String.ofList (takeRun isIdentChar cs).1) with
      | none =>
        refine ⟨fun h => absurd h not_reads_stuck, ?_⟩
        rintro ⟨-, ⟨_, _, _, _, _, -, hsome, -⟩ | ⟨hclosed, -⟩⟩
        · cases hsome
        · exact absurd hopen (hclosed inner)
      | some method =>
        refine (reads_both_iff (r := fun _ => readAccessors)
          (f := fun args others => Accessor.call method args :: others)).trans ?_
        constructor
        · rintro ⟨args, others, after, hargs, hothers, rfl⟩
          exact ⟨hname, .inl ⟨inner, method, args, after, others, hopen, rfl, hargs, hothers, rfl⟩⟩
        · rintro ⟨-, ⟨inner', method', args, after, others, hopen', hsome, hargs, hothers, rfl⟩ |
            ⟨hclosed, -⟩⟩
          · obtain rfl := (List.cons.inj (hopen.symm.trans hopen')).2
            obtain rfl := Option.some.inj hsome
            exact ⟨args, others, after, hargs, hothers, rfl⟩
          · exact absurd hopen (hclosed inner)
    · rename_i hclosed
      refine (reads_map_iff (f := fun others => Accessor.member _ :: others)).trans ?_
      constructor
      · intro hothers
        exact ⟨hname, .inr ⟨hclosed, hothers⟩⟩
      · rintro ⟨-, ⟨inner, _, _, _, _, hopen, -⟩ | ⟨-, hothers⟩⟩
        · exact absurd hopen (hclosed inner)
        · exact hothers

theorem reads_open_iff {accessors : List Accessor} :
    Reads (readAccessors ('[' :: cs)) accessors rest ↔ ∃ first others after,
      Reads (readBracketAccessor cs) first after ∧ Reads (readAccessors after) others rest ∧
        accessors = first :: others := by
  rw [readAccessors.eq_def]
  exact reads_both_iff (r := fun _ => readAccessors) (f := List.cons)

theorem readAccessors_end (hpoint : cs.head? ≠ some '.') (hopen : cs.head? ≠ some '[') :
    readAccessors cs = .ok ⟨[], cs, Nat.lt_succ_self _⟩ := by
  rw [readAccessors.eq_def]
  split
  · exact absurd rfl hpoint
  · exact absurd rfl hopen
  · rfl

theorem reads_accessors_end_iff (h : ∀ c ∈ cs.head?, c ≠ '.' ∧ c ≠ '[')
    {accessors : List Accessor} :
    Reads (readAccessors cs) accessors rest ↔ accessors = [] ∧ rest = cs := by
  rw [readAccessors_end (fun hpoint => (h '.' hpoint).1 rfl) (fun hopen => (h '[' hopen).2 rfl)]
  constructor
  · intro hread
    obtain ⟨rfl, rfl⟩ := Reads.of_pure hread
    exact ⟨rfl, rfl⟩
  · rintro ⟨rfl, rfl⟩
    exact ⟨_, rfl⟩

theorem reads_arguments_iff {args : List Operand} :
    Reads (readArguments cs) args rest ↔
      (skipBlank cs = ')' :: rest ∧ args = []) ∨
        ((∀ after, skipBlank cs ≠ ')' :: after) ∧
          Reads (readArgumentList (skipBlank cs)) args rest) := by
  rw [readArguments.eq_def]
  dsimp only
  split
  · rename_i after hclose
    constructor
    · intro h
      obtain ⟨rfl, rfl⟩ := Reads.of_pure h
      exact .inl ⟨hclose, rfl⟩
    · rintro (⟨hclose', rfl⟩ | ⟨hopen, -⟩)
      · obtain rfl := (List.cons.inj (hclose.symm.trans hclose')).2
        exact ⟨_, rfl⟩
      · exact absurd hclose (hopen after)
  · rename_i hopen
    refine reads_same_iff.trans ?_
    constructor
    · intro hargs
      exact .inr ⟨hopen, hargs⟩
    · rintro (⟨hclose, -⟩ | ⟨-, hargs⟩)
      · exact absurd hclose (hopen rest)
      · exact hargs

theorem reads_argumentList_iff {args : List Operand} :
    Reads (readArgumentList cs) args rest ↔ ∃ first after,
      Reads (readOperand cs) first after ∧
        ((skipBlank after = ')' :: rest ∧ args = [first]) ∨
          ∃ next others, skipBlank after = ',' :: next ∧
            Reads (readArgumentList next) others rest ∧ args = first :: others) := by
  rw [readArgumentList.eq_def]
  constructor
  · intro h
    obtain ⟨first, after, _, hfirst, h⟩ := h.of_bind
    refine ⟨first, after, hfirst, ?_⟩
    dsimp only at h
    split at h
    · rename_i last hclose
      obtain ⟨rfl, rfl⟩ := Reads.of_pure h
      exact .inl ⟨hclose, rfl⟩
    · obtain ⟨_, next, _, hcomma, h⟩ := h.of_bind
      obtain ⟨others, hothers, rfl⟩ := reads_map_iff.1 h
      exact .inr ⟨next, others, reads_expect_spec hcomma, hothers, rfl⟩
  · rintro ⟨first, after, hfirst, h⟩
    refine hfirst.bind fun _ => ?_
    dsimp only
    split
    · rename_i last hclose
      rcases h with ⟨hclose', rfl⟩ | ⟨next, _, hcomma, -⟩
      · obtain rfl := (List.cons.inj (hclose.symm.trans hclose')).2
        exact ⟨_, rfl⟩
      · exact absurd (List.cons.inj (hclose.symm.trans hcomma)).1 (by decide)
    · rename_i hopen
      rcases h with ⟨hclose, -⟩ | ⟨next, others, hcomma, hothers, rfl⟩
      · exact absurd hclose (hopen rest)
      · have hexpect : Reads (expect ',' (skipBlank after)) () next := by
          rw [hcomma]
          exact reads_expect ',' next
        exact hexpect.bind fun _ => reads_map_iff.2 ⟨others, hothers, rfl⟩

end Operands

/-! ### Conditions -/

section Conditions

variable {cs rest : List Char} {condition : Filter}

theorem eq_of_takeComparison? {comparison : Comparison}
    (h : takeComparison? cs = some (comparison, rest)) : cs = comparison.sign.toList ++ rest := by
  unfold takeComparison? at h
  split at h
  case h_9 => cases h
  all_goals
    obtain ⟨rfl, rfl⟩ := Prod.mk.inj (Option.some.inj h)
    rfl

theorem takeComparison?_ne_none (comparison : Comparison) (rest : List Char) :
    takeComparison? (comparison.sign.toList ++ rest) ≠ none := by
  intro hnone
  unfold takeComparison? at hnone
  split at hnone
  case h_9 hstrict hstrictNot hloose hlooseNot hle hge hlt hgt =>
    cases comparison
    · exact hstrict rest rfl
    · exact hstrictNot rest rfl
    · exact hloose rest rfl
    · exact hlooseNot rest rfl
    · exact hlt rest rfl
    · exact hle rest rfl
    · exact hgt rest rfl
    · exact hge rest rfl
  all_goals cases hnone

theorem reads_comparison_iff :
    Reads (readComparison cs) condition rest ↔ ∃ left after,
      Reads (readOperand cs) left after ∧
        ((takeComparison? (skipBlank after) = none ∧ rest = skipBlank after ∧
            condition = .truthy left) ∨
          ∃ comparison next right, takeComparison? (skipBlank after) = some (comparison, next) ∧
            Reads (readOperand next) right rest ∧ condition = .compare left comparison right) := by
  constructor
  · intro h
    obtain ⟨left, after, _, hleft, h⟩ := Reads.of_bind h
    refine ⟨left, after, hleft, ?_⟩
    dsimp only at h
    split at h
    · rename_i hnone
      obtain ⟨rfl, rfl⟩ := Reads.of_pure h
      exact .inl ⟨hnone, rfl, rfl⟩
    · rename_i comparison next hsome
      obtain ⟨right, hright, rfl⟩ := reads_map_iff.1 h
      exact .inr ⟨comparison, next, right, hsome, hright, rfl⟩
  · rintro ⟨left, after, hleft, h⟩
    refine hleft.bind fun _ => ?_
    dsimp only
    split
    · rename_i hnone
      rcases h with ⟨-, rfl, rfl⟩ | ⟨_, _, _, hsome, -⟩
      · exact ⟨_, rfl⟩
      · exact absurd (hnone.symm.trans hsome) (by simp)
    · rename_i hsome
      rcases h with ⟨hnone, -⟩ | ⟨_, _, right, hsome', hright, rfl⟩
      · exact absurd (hnone.symm.trans hsome) (by simp)
      · obtain ⟨rfl, rfl⟩ := Prod.mk.inj (Option.some.inj (hsome.symm.trans hsome'))
        exact reads_map_iff.2 ⟨right, hright, rfl⟩

theorem reads_or_iff :
    Reads (readOr cs) condition rest ↔ ∃ first after,
      Reads (readAnd cs) first after ∧ Reads (readOrTail first after) condition rest := by
  rw [readOr.eq_def]
  exact reads_second_iff (r := readOrTail)

theorem reads_and_iff :
    Reads (readAnd cs) condition rest ↔ ∃ first after,
      Reads (readUnary cs) first after ∧ Reads (readAndTail first after) condition rest := by
  rw [readAnd.eq_def]
  exact reads_second_iff (r := readAndTail)

theorem reads_orTail_iff {left : Filter} :
    Reads (readOrTail left cs) condition rest ↔
      (∃ next right after, skipBlank cs = '|' :: '|' :: next ∧ Reads (readAnd next) right after ∧
          Reads (readOrTail (.or left right) after) condition rest) ∨
        ((∀ next, skipBlank cs ≠ '|' :: '|' :: next) ∧ rest = skipBlank cs ∧ condition = left) := by
  rw [readOrTail.eq_def]
  dsimp only
  split
  · rename_i next hsign
    refine (reads_second_iff (r := fun right => readOrTail (.or left right))).trans ?_
    constructor
    · rintro ⟨right, after, hright, htail⟩
      exact .inl ⟨next, right, after, hsign, hright, htail⟩
    · rintro (⟨next', right, after, hsign', hright, htail⟩ | ⟨hnone, -⟩)
      · obtain rfl := (List.cons.inj (List.cons.inj (hsign.symm.trans hsign')).2).2
        exact ⟨right, after, hright, htail⟩
      · exact absurd hsign (hnone next)
  · rename_i hnone
    constructor
    · intro h
      obtain ⟨rfl, rfl⟩ := Reads.of_pure h
      exact .inr ⟨hnone, rfl, rfl⟩
    · rintro (⟨next, _, _, hsign, -⟩ | ⟨-, rfl, rfl⟩)
      · exact absurd hsign (hnone next)
      · exact ⟨_, rfl⟩

theorem reads_andTail_iff {left : Filter} :
    Reads (readAndTail left cs) condition rest ↔
      (∃ next right after, skipBlank cs = '&' :: '&' :: next ∧ Reads (readUnary next) right after ∧
          Reads (readAndTail (.and left right) after) condition rest) ∨
        ((∀ next, skipBlank cs ≠ '&' :: '&' :: next) ∧ rest = skipBlank cs ∧ condition = left) := by
  rw [readAndTail.eq_def]
  dsimp only
  split
  · rename_i next hsign
    refine (reads_second_iff (r := fun right => readAndTail (.and left right))).trans ?_
    constructor
    · rintro ⟨right, after, hright, htail⟩
      exact .inl ⟨next, right, after, hsign, hright, htail⟩
    · rintro (⟨next', right, after, hsign', hright, htail⟩ | ⟨hnone, -⟩)
      · obtain rfl := (List.cons.inj (List.cons.inj (hsign.symm.trans hsign')).2).2
        exact ⟨right, after, hright, htail⟩
      · exact absurd hsign (hnone next)
  · rename_i hnone
    constructor
    · intro h
      obtain ⟨rfl, rfl⟩ := Reads.of_pure h
      exact .inr ⟨hnone, rfl, rfl⟩
    · rintro (⟨next, _, _, hsign, -⟩ | ⟨-, rfl, rfl⟩)
      · exact absurd hsign (hnone next)
      · exact ⟨_, rfl⟩

/-- The text starts with a sign of negation, which is none of inequality. -/
def StartsNot (cs next : List Char) : Prop := cs = '!' :: next ∧ next.head? ≠ some '='

theorem reads_unary_iff :
    Reads (readUnary cs) condition rest ↔
      (∃ next inner, StartsNot (skipBlank cs) next ∧ Reads (readUnary next) inner rest ∧
          condition = .not inner) ∨
        (∃ next after, skipBlank cs = '(' :: next ∧ Reads (readOr next) condition after ∧
          skipBlank after = ')' :: rest) ∨
        ((∀ next, ¬ StartsNot (skipBlank cs) next) ∧ (∀ next, skipBlank cs ≠ '(' :: next) ∧
          Reads (readComparison (skipBlank cs)) condition rest) := by
  rw [readUnary.eq_def]
  dsimp only
  split
  · rename_i next hsign
    simp only [hsign]
    have hparen : ∀ inner, '!' :: next ≠ '(' :: inner := by simp
    split
    · rename_i hequals
      have hnone : ∀ inner, ¬ StartsNot ('!' :: next) inner := by
        rintro inner ⟨hinner, hother⟩
        obtain rfl := (List.cons.inj hinner).2
        exact hother hequals
      refine reads_same_iff.trans ?_
      constructor
      · intro hcomparison
        rw [← hsign] at hcomparison
        exact .inr (.inr ⟨hnone, hparen, hcomparison⟩)
      · rintro (⟨inner, _, hinner, -⟩ | ⟨inner, _, hinner, -⟩ | ⟨-, -, hcomparison⟩)
        · exact absurd hinner (hnone inner)
        · exact absurd hinner (hparen inner)
        · rw [hsign] at hcomparison
          exact hcomparison
    · rename_i hother
      refine (reads_map_iff (f := Filter.not)).trans ?_
      constructor
      · rintro ⟨inner, hinner, rfl⟩
        exact .inl ⟨next, inner, ⟨rfl, hother⟩, hinner, rfl⟩
      · rintro (⟨next', inner, ⟨hnext, -⟩, hinner, rfl⟩ | ⟨inner, _, hinner, -⟩ | ⟨hnone, -⟩)
        · obtain rfl := (List.cons.inj hnext).2
          exact ⟨inner, hinner, rfl⟩
        · exact absurd hinner (hparen inner)
        · exact absurd ⟨rfl, hother⟩ (hnone next)
  · rename_i next hopen
    simp only [hopen]
    have hnone : ∀ inner, ¬ StartsNot ('(' :: next) inner := by
      rintro inner ⟨hinner, -⟩
      exact absurd (List.cons.inj hinner).1 (by decide)
    refine (reads_both_iff (r := fun _ => expectNext ')') (f := fun inner _ => inner)).trans ?_
    constructor
    · rintro ⟨_, _, after, hinner, hclose, rfl⟩
      exact .inr (.inl ⟨next, after, rfl, hinner, reads_expectNext_spec hclose⟩)
    · rintro (⟨inner, _, hinner, -⟩ | ⟨next', after, hnext, hinner, hclose⟩ | ⟨-, hparen, -⟩)
      · exact absurd hinner (hnone inner)
      · obtain rfl := (List.cons.inj hnext).2
        exact ⟨condition, (), after, hinner, reads_expectNext hclose, rfl⟩
      · exact absurd rfl (hparen next)
  · rename_i hsign hopen
    have hnone : ∀ next, ¬ StartsNot (skipBlank cs) next := fun next h => hsign next h.1
    refine reads_same_iff.trans ?_
    constructor
    · intro hcomparison
      exact .inr (.inr ⟨hnone, hopen, hcomparison⟩)
    · rintro (⟨next, _, hnext, -⟩ | ⟨next, _, hnext, -⟩ | ⟨-, -, hcomparison⟩)
      · exact absurd hnext (hnone next)
      · exact absurd hnext (hopen next)
      · exact hcomparison

end Conditions

end TrackerTraffic.Path
