import TrackerTraffic.Proofs.ScanConditions

/-!
# Scanning paths

The scan of a path keeps step with the reader of paths to the end of the text.  Within a bound that
is linear in the text it ends, its log is sound, and what it comes to is what parsing comes to.
-/

namespace TrackerTraffic.Path

namespace Scan

variable {context : Context} {rest : List Char} {s : State}

/-! ### Segments -/

theorem follows_bracketContent (h : Stands context rest s) :
    Follows context s bracketContent (readBracketContent rest) := by
  refine (arrives_peek h).next fun s₁ h₁ => ?_
  cases rest with
  | nil => exact follows_refuse h₁ _
  | cons c rest =>
    rw [readBracketContent]
    dsimp only [List.head?_cons]
    split
    · exact (arrives_advance_one h₁).next fun s₂ h₂ => follows_pure h₂ _ _
    split
    · refine (arrives_advance_one h₁).next fun s₂ h₂ => ?_
      refine follows_closing h₂ '(' fun opening s₃ h₃ => (arrives_bound h₃).next fun s₄ h₄ => ?_
      have hbound := h₄.bound_le
      refine (follows_disjunction h₄ (List.forall_mem_nil _) (by omega)).bind
        fun condition s₅ h₅ => ?_
      exact follows_closing h₅ ')' fun closing s₆ h₆ => follows_pure h₆ _ _
    split
    · exact (follows_string h₁).bind fun taken s₂ h₂ => follows_pure h₂ _ _
    split
    · exact (follows_integer h₁).bind fun taken s₂ h₂ => follows_pure h₂ _ _
    · exact follows_refuse h₁ _

theorem follows_bracket (h : Stands context ('[' :: rest) s) :
    Follows context s bracket (readBracket rest) := by
  refine (arrives_demand h).next fun s₁ h₁ => (arrives_skipBlanks h₁).next fun s₂ h₂ => ?_
  refine (follows_bracketContent h₂).bind fun segment s₃ h₃ => ?_
  exact follows_closing h₃ ']' fun closing s₄ h₄ => follows_pure h₄ _ _

theorem follows_descent (h : Stands context rest s) : Follows context s descent (readDescent rest) := by
  unfold readDescent
  split
  · refine (arrives_peek h).next fun s₁ h₁ => (arrives_advance_one h₁).next fun s₂ h₂ => ?_
    exact follows_pure h₂ _ _
  · refine (arrives_peek h).next fun s₁ h₁ => ?_
    exact (follows_bracket h₁).bind fun segment s₂ h₂ => follows_pure h₂ _ _
  · rename_i hwildcard hopen
    refine (arrives_peek h).next fun s₁ h₁ => ?_
    split
    · rename_i hhead
      exact absurd hhead (head?_ne_some hwildcard)
    · rename_i hhead
      exact absurd hhead (head?_ne_some hopen)
    · exact (follows_name h₁).bind fun name s₂ h₂ => follows_pure h₂ _ _

theorem follows_segment (h : Stands context rest s) : Follows context s segment (readSegment rest) := by
  unfold readSegment
  split
  · rename_i rest
    refine (arrives_peek h).next fun s₁ h₁ => (arrives_peekAt h₁ 1).next fun s₂ h₂ => ?_
    have hnext : ('.' :: '.' :: rest)[1]? = some '.' := rfl
    rw [if_pos hnext]
    refine (arrives_advance ['.', '.'] h₂).next fun s₃ h₃ => ?_
    exact (follows_descent h₃).widen _
  · refine (arrives_peek h).next fun s₁ h₁ => (arrives_peekAt h₁ 1).next fun s₂ h₂ => ?_
    rw [if_neg (by simp)]
    refine (arrives_advance_one h₂).next fun s₃ h₃ => (arrives_eat h₃).next fun s₄ h₄ => ?_
    exact follows_pure h₄ _ _
  · rename_i rest hdescent hwildcard
    refine (arrives_peek h).next fun s₁ h₁ => (arrives_peekAt h₁ 1).next fun s₂ h₂ => ?_
    have hnext : ('.' :: rest)[1]? ≠ some '.' := by
      rw [List.getElem?_cons_succ, ← List.head?_eq_getElem?]
      exact head?_ne_some hdescent
    rw [if_neg hnext]
    refine (arrives_advance_one h₂).next fun s₃ h₃ => ?_
    refine (arrives_eat_none h₃ (head?_ne_some hwildcard)).next fun s₄ h₄ => ?_
    exact (follows_name h₄).bind fun name s₅ h₅ => follows_pure h₅ _ _
  · refine (arrives_peek h).next fun s₁ h₁ => ?_
    exact (follows_bracket h₁).widen _
  · rename_i hpoint hopen
    refine (arrives_peek h).next fun s₁ h₁ => ?_
    split
    · rename_i hhead
      exact absurd hhead (head?_ne_some hpoint)
    · rename_i hhead
      exact absurd hhead (head?_ne_some hopen)
    · exact follows_refuse h₁ _

/-! ### Whole paths -/

/-- The reading of a whole text, which leaves nothing. -/
def whole {α : Type} (reading : Except Stuck α) : Reading α 1 :=
  reading.map fun value => ⟨value, [], Nat.one_pos⟩

theorem whole_bind {α β : Type} (reading : Except Stuck α) (next : α → Except Stuck β) :
    whole (reading >>= next) = reading >>= fun value => whole (next value) := by
  cases reading <;> rfl

theorem whole_map {α β : Type} (reading : Except Stuck α) (f : α → β) :
    whole (reading >>= fun value => pure (f value)) =
      whole reading >>= fun taken => .ok ⟨f taken.value, taken.rest, taken.shorter⟩ := by
  cases reading <;> rfl

theorem follows_rounds {n : Nat} (h : Stands context rest s) (hn : rest.length < n) :
    Follows context s (segments n) (whole (readSegments rest)) := by
  induction n generalizing rest s with
  | zero => exact absurd hn (Nat.not_lt_zero _)
  | succ n ih =>
    rw [segments]
    refine (arrives_position h).next fun s₁ h₁ => (arrives_peek h₁).next fun s₂ h₂ => ?_
    cases rest with
    | nil =>
      rw [readSegments]
      exact follows_pure h₂ _ _
    | cons c tail =>
      rw [readSegments, whole_bind]
      refine (follows_segment h₂).bind fun segment s₃ h₃ => ?_
      have hshorter := segment.shorter
      refine (arrives_repeated .segments h h₃ hshorter).next fun s₄ h₄ => ?_
      dsimp only
      rw [whole_map]
      exact (ih h₄ (by omega)).bind fun others s₅ h₅ => follows_pure h₅ _ _

theorem follows_segments (h : Stands context rest s) :
    Follows context s (bound >>= segments) (whole (readSegments rest)) := by
  refine (arrives_bound h).next fun s' h' => ?_
  have hbound := h'.bound_le
  exact follows_rounds h' (by omega)

theorem follows_path (h : Stands context rest s) :
    Follows context s path (whole (readPath rest)) := by
  unfold readPath
  split
  · have hread : readSegments [] = .ok [] := by rw [readSegments]
    rw [← hread]
    refine (arrives_eat_none h (by simp)).next fun s₁ h₁ => (arrives_peek h₁).next fun s₂ h₂ => ?_
    exact follows_segments h₂
  · exact (arrives_eat h).next fun s₁ h₁ => follows_segments h₁
  · refine (arrives_eat_none h (by simp)).next fun s₁ h₁ => (arrives_peek h₁).next fun s₂ h₂ => ?_
    exact follows_segments h₂
  · refine (arrives_eat_none h (by simp)).next fun s₁ h₁ => (arrives_peek h₁).next fun s₂ h₂ => ?_
    exact follows_segments h₂
  · rename_i hnil hroot hpoint hopen
    refine (arrives_eat_none h (head?_ne_some hroot)).next fun s₁ h₁ => ?_
    refine (arrives_peek h₁).next fun s₂ h₂ => ?_
    obtain ⟨c, tail, rfl⟩ := List.exists_cons_of_ne_nil hnil
    have hname : ¬ (c = '.' || c = '[') = true := by
      rw [Bool.or_eq_true, decide_eq_true_iff, decide_eq_true_iff]
      rintro (rfl | rfl)
      · exact hpoint tail rfl
      · exact hopen tail rfl
    dsimp only [List.head?_cons]
    rw [if_neg hname, whole_bind]
    refine (follows_name h₂).bind fun name s₃ h₃ => (arrives_bound h₃).next fun s₄ h₄ => ?_
    have hbound := h₄.bound_le
    rw [whole_map]
    exact (follows_rounds h₄ (by omega)).bind fun others s₅ h₅ => follows_pure h₅ _ _

theorem stands_start (context : Context) (henough : 4 * (context.text.length + 1) ≤ context.bound) :
    Stands context context.text ⟨0, []⟩ where
  inside := Nat.zero_le _
  tracked := rfl
  sound := List.forall_mem_nil _
  forward := List.pairwise_singleton _ _
  left := List.drop_zero
  enough := henough

end Scan

/-- On every text the scan ends within a bound that is linear in the length, in a sound state: either
all of the text was read, or it is refused at the position the scan has come to. -/
theorem exists_sound_scan (source : String) (more : Nat) :
    ∃ answer s, scan (4 * (source.length + 1) + more) source = some (answer, s) ∧
      s.Sound source.length ∧
      ((∃ path, parse source = .ok path ∧ path.source = source ∧ answer = .ok path.segments ∧
          s.position = source.length) ∨
        ∃ reason, parse source = .error (.malformed source s.position reason) ∧
          answer = .error (.refused reason)) := by
  rw [← String.length_toList]
  have hstart := Scan.stands_start ⟨source.toList, 4 * (source.toList.length + 1) + more⟩
    (Nat.le_add_right _ _)
  have hfollows := Scan.follows_path hstart
  cases hread : readPath source.toList with
  | ok segments =>
    rw [hread] at hfollows
    obtain ⟨s, hscan, hstands⟩ := hfollows
    refine ⟨_, s, hscan, hstands.toSound, .inl ⟨⟨source, segments⟩, ?_, rfl, rfl, ?_⟩⟩
    · simp only [parse, hread]
    · exact hstands.position_add
  | error e =>
    rw [hread] at hfollows
    obtain ⟨rest, s, hscan, hstands, hlength⟩ := hfollows
    refine ⟨_, s, hscan, hstands.toSound, .inr ⟨e.reason, ?_, rfl⟩⟩
    have hposition : source.toList.length - e.left = s.position := by
      rw [← hlength, ← hstands.position_add, Nat.add_sub_cancel]
    simp only [parse, hread, hposition]

-- A negation in a filter: all that was logged but the moves, the latest first.
example : ((scan 32 "[?(!@)]").map fun answer =>
    answer.2.log.filter fun event => event.target? = none) = some
      [.repeated .segments 0 7,
        .entered ⟨.operand, 4⟩ [⟨.unary, 4⟩, ⟨.unary, 3⟩, ⟨.conjunction, 3⟩, ⟨.disjunction, 3⟩],
        .entered ⟨.unary, 4⟩ [⟨.unary, 3⟩, ⟨.conjunction, 3⟩, ⟨.disjunction, 3⟩],
        .entered ⟨.unary, 3⟩ [⟨.conjunction, 3⟩, ⟨.disjunction, 3⟩],
        .entered ⟨.conjunction, 3⟩ [⟨.disjunction, 3⟩],
        .entered ⟨.disjunction, 3⟩ []] := by
  decide +kernel

end TrackerTraffic.Path
