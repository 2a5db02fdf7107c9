import TrackerTraffic.Proofs.PathOperand

/-!
# Reading written paths

A written condition reads back up to the blanks behind it, in front of a closing
parenthesis or a sign that joins conditions.  With the readers of its brackets
every segment reads back, and so does the path.
-/

namespace TrackerTraffic.Path

variable {layout : Layout}

/-! ### Readings up to blanks -/

/-- The reading succeeds with the value and leaves the text, perhaps without blanks before it. -/
def ReadsTo {α : Type} {limit : Nat} (reading : Reading α limit) (value : α) (rest : List Char) :
    Prop :=
  ∃ after, skipBlank after = skipBlank rest ∧ Reads reading value after

theorem Reads.to {α : Type} {limit : Nat} {reading : Reading α limit} {value : α}
    {rest : List Char} (h : Reads reading value rest) : ReadsTo reading value rest :=
  ⟨rest, rfl, h⟩

theorem skipBlank_skipBlank (cs : List Char) : skipBlank (skipBlank cs) = skipBlank cs :=
  List.dropWhile_idempotent _ _

/-- Behind blanks the text goes on with the character. -/
def Next (c : Char) (rest : List Char) : Prop := (skipBlank rest).head? = some c

theorem Next.cons {c : Char} {rest : List Char} (h : Next c rest) :
    ∃ behind, skipBlank rest = c :: behind :=
  List.head?_eq_some_iff.1 h

theorem Next.no_sign {c d : Char} {rest : List Char} (h : Next c rest) (hne : c ≠ d) :
    ∀ behind, skipBlank rest ≠ d :: d :: behind := by
  intro behind heq
  obtain ⟨other, hother⟩ := h.cons
  exact hne (List.cons.inj (hother.symm.trans heq)).1

/-! ### Comparisons -/

theorem takeComparison?_sign (comparison : Comparison) {behind : List Char}
    (h : Stops (· == '=') behind) :
    takeComparison? (comparison.sign.toList ++ behind) = some (comparison, behind) := by
  cases behind with
  | nil => cases comparison <;> rfl
  | cons c behind =>
    -- the shorter signs are starts of longer ones
    have hc : c ≠ '=' := by simpa using h c rfl
    cases comparison <;> simp [takeComparison?, Comparison.sign, hc]

theorem Comparison.sign_cons (comparison : Comparison) :
    ∃ c rest, comparison.sign.toList = c :: rest ∧ Text.isBlank c = false ∧
      isOperandChar c = false := by
  cases comparison <;> exact ⟨_, _, rfl, by decide, by decide⟩

/-- What may follow a written condition: a closing parenthesis or a sign that joins conditions. -/
structure IsConditionEnd (rest : List Char) : Prop where
  stops : Stops isOperandChar rest
  next : Next ')' rest ∨ Next '&' rest ∨ Next '|' rest

theorem takeComparison?_none {rest : List Char} (h : IsConditionEnd rest) :
    takeComparison? (skipBlank rest) = none := by
  rcases h.next with h | h | h
  · obtain ⟨behind, hbehind⟩ := h.cons
    rw [hbehind]
    rfl
  · obtain ⟨behind, hbehind⟩ := h.cons
    rw [hbehind]
    rfl
  · obtain ⟨behind, hbehind⟩ := h.cons
    rw [hbehind]
    rfl

theorem reads_truthy {operand : Operand} {cs rest : List Char}
    (hoperand : Reads (readOperand cs) operand rest) (hrest : IsConditionEnd rest) :
    ReadsTo (readComparison cs) (.truthy operand) rest := by
  refine ⟨skipBlank rest, skipBlank_skipBlank rest, ?_⟩
  exact reads_comparison_iff.2
    ⟨operand, rest, hoperand, .inl ⟨takeComparison?_none hrest, rfl, rfl⟩⟩

theorem reads_compare {left right : Operand} {comparison : Comparison}
    {cs between behind rest : List Char} (hleft : Reads (readOperand cs) left between)
    (hsign : takeComparison? (skipBlank between) = some (comparison, behind))
    (hright : Reads (readOperand behind) right rest) :
    Reads (readComparison cs) (.compare left comparison right) rest :=
  reads_comparison_iff.2
    ⟨left, between, hleft, .inr ⟨comparison, behind, right, hsign, hright, rfl⟩⟩

/-! ### Steps of the reader of conditions -/

theorem readsTo_not {condition : Filter} {cs behind rest : List Char}
    (hcs : skipBlank cs = '!' :: behind) (hequals : behind.head? ≠ some '=')
    (h : ReadsTo (readUnary behind) condition rest) :
    ReadsTo (readUnary cs) (.not condition) rest := by
  obtain ⟨after, hskip, hread⟩ := h
  exact ⟨after, hskip, reads_unary_iff.2 (.inl ⟨behind, _, ⟨hcs, hequals⟩, hread, rfl⟩)⟩

theorem readsTo_parentheses {condition : Filter} {cs behind rest : List Char}
    (hcs : skipBlank cs = '(' :: behind)
    (h : ReadsTo (readOr behind) condition (')' :: rest)) :
    ReadsTo (readUnary cs) condition rest := by
  obtain ⟨after, hskip, hread⟩ := h
  have hclose : skipBlank after = ')' :: rest := hskip.trans (skipBlank_cons (by decide) rest)
  exact ⟨rest, rfl, reads_unary_iff.2 (.inr (.inl ⟨behind, after, hcs, hread, hclose⟩))⟩

theorem readsTo_comparison {condition : Filter} {cs behind rest : List Char} {c : Char}
    (hcs : skipBlank cs = c :: behind) (hnot : c ≠ '!') (hopen : c ≠ '(')
    (h : ReadsTo (readComparison (c :: behind)) condition rest) :
    ReadsTo (readUnary cs) condition rest := by
  obtain ⟨after, hskip, hread⟩ := h
  rw [← hcs] at hread
  refine ⟨after, hskip, reads_unary_iff.2 (.inr (.inr ⟨?_, ?_, hread⟩))⟩
  · rintro next ⟨hsign, -⟩
    exact hnot (List.cons.inj (hcs.symm.trans hsign)).1
  · intro next hsign
    exact hopen (List.cons.inj (hcs.symm.trans hsign)).1

theorem readsTo_and_end {left : Filter} {cs : List Char}
    (h : ∀ behind, skipBlank cs ≠ '&' :: '&' :: behind) :
    ReadsTo (readAndTail left cs) left cs :=
  ⟨skipBlank cs, skipBlank_skipBlank cs, reads_andTail_iff.2 (.inr ⟨h, rfl, rfl⟩)⟩

theorem readsTo_and {a b : Filter} {cs between behind rest : List Char}
    (ha : ReadsTo (readUnary cs) a between) (hsign : skipBlank between = '&' :: '&' :: behind)
    (hb : ReadsTo (readUnary behind) b rest)
    (hend : ∀ behind, skipBlank rest ≠ '&' :: '&' :: behind) :
    ReadsTo (readAnd cs) (.and a b) rest := by
  obtain ⟨after, hskip, hfirst⟩ := ha
  obtain ⟨last, hlast, hsecond⟩ := hb
  -- the tail takes one operand more and stops, for no other sign follows
  have hstop : ReadsTo (readAndTail (.and a b) last) (.and a b) last :=
    readsTo_and_end (by rw [hlast]; exact hend)
  obtain ⟨final, hfinal, hread⟩ := hstop
  have htail : Reads (readAndTail a after) (.and a b) final :=
    reads_andTail_iff.2 (.inl ⟨behind, b, last, hskip.trans hsign, hsecond, hread⟩)
  exact ⟨final, hfinal.trans hlast, reads_and_iff.2 ⟨a, after, hfirst, htail⟩⟩

theorem readsTo_single_and {a : Filter} {cs rest : List Char}
    (ha : ReadsTo (readUnary cs) a rest)
    (hend : ∀ behind, skipBlank rest ≠ '&' :: '&' :: behind) :
    ReadsTo (readAnd cs) a rest := by
  obtain ⟨after, hskip, hfirst⟩ := ha
  have hstop : ReadsTo (readAndTail a after) a after :=
    readsTo_and_end (by rw [hskip]; exact hend)
  obtain ⟨final, hfinal, htail⟩ := hstop
  exact ⟨final, hfinal.trans hskip, reads_and_iff.2 ⟨a, after, hfirst, htail⟩⟩

theorem readsTo_or_end {left : Filter} {cs : List Char}
    (h : ∀ behind, skipBlank cs ≠ '|' :: '|' :: behind) :
    ReadsTo (readOrTail left cs) left cs :=
  ⟨skipBlank cs, skipBlank_skipBlank cs, reads_orTail_iff.2 (.inr ⟨h, rfl, rfl⟩)⟩

theorem readsTo_or {a b : Filter} {cs between behind rest : List Char}
    (ha : ReadsTo (readAnd cs) a between) (hsign : skipBlank between = '|' :: '|' :: behind)
    (hb : ReadsTo (readAnd behind) b rest)
    (hend : ∀ behind, skipBlank rest ≠ '|' :: '|' :: behind) :
    ReadsTo (readOr cs) (.or a b) rest := by
  obtain ⟨after, hskip, hfirst⟩ := ha
  obtain ⟨last, hlast, hsecond⟩ := hb
  have hstop : ReadsTo (readOrTail (.or a b) last) (.or a b) last :=
    readsTo_or_end (by rw [hlast]; exact hend)
  obtain ⟨final, hfinal, hread⟩ := hstop
  have htail : Reads (readOrTail a after) (.or a b) final :=
    reads_orTail_iff.2 (.inl ⟨behind, b, last, hskip.trans hsign, hsecond, hread⟩)
  exact ⟨final, hfinal.trans hlast, reads_or_iff.2 ⟨a, after, hfirst, htail⟩⟩

theorem readsTo_single_or {a : Filter} {cs rest : List Char}
    (ha : ReadsTo (readAnd cs) a rest)
    (hend : ∀ behind, skipBlank rest ≠ '|' :: '|' :: behind) :
    ReadsTo (readOr cs) a rest := by
  obtain ⟨after, hskip, hfirst⟩ := ha
  have hstop : ReadsTo (readOrTail a after) a after :=
    readsTo_or_end (by rw [hskip]; exact hend)
  obtain ⟨final, hfinal, htail⟩ := hstop
  exact ⟨final, hfinal.trans hskip, reads_or_iff.2 ⟨a, after, hfirst, htail⟩⟩

/-! ### Conditions in front of a closing parenthesis -/

section Closed

variable {a b : Filter} {cs between behind rest : List Char} (hclose : Next ')' rest)

include hclose

theorem readsTo_or_of_unary (ha : ReadsTo (readUnary cs) a rest) : ReadsTo (readOr cs) a rest :=
  readsTo_single_or (readsTo_single_and ha (hclose.no_sign (by decide)))
    (hclose.no_sign (by decide))

theorem readsTo_conjunction (ha : ReadsTo (readUnary cs) a between)
    (hsign : skipBlank between = '&' :: '&' :: behind) (hb : ReadsTo (readUnary behind) b rest) :
    ReadsTo (readOr cs) (.and a b) rest :=
  readsTo_single_or (readsTo_and ha hsign hb (hclose.no_sign (by decide)))
    (hclose.no_sign (by decide))

theorem readsTo_disjunction (ha : ReadsTo (readUnary cs) a between)
    (hsign : skipBlank between = '|' :: '|' :: behind) (hb : ReadsTo (readUnary behind) b rest) :
    ReadsTo (readOr cs) (.or a b) rest := by
  have hleft := readsTo_single_and ha (by simp [hsign])
  have hright := readsTo_single_and hb (hclose.no_sign (by decide))
  exact readsTo_or hleft hsign hright (hclose.no_sign (by decide))

end Closed

/-! ### Starts and ends of written conditions -/

/-- The text starts at once, and not so that it would go on with a sign in front of it. -/
def IsConditionStart (text : List Char) : Prop :=
  ∃ c rest, text = c :: rest ∧ Text.isBlank c = false ∧ c ≠ '='

theorem Layout.enclosed_start (condition : Filter) {text : List Char} (h : IsConditionStart text) :
    IsConditionStart (layout.enclosed condition text) := by
  unfold Layout.enclosed
  split
  · exact ⟨'(', _, rfl, by decide, by decide⟩
  · exact h

theorem Layout.filter_start {condition : Filter} (h : condition.Printable) :
    IsConditionStart (layout.filter condition) := by
  induction condition with
  | or a b iha ihb =>
    obtain ⟨c, rest, htext, hc⟩ := layout.enclosed_start a (iha h.1)
    exact ⟨c, _, by rw [Layout.filter, htext, List.cons_append, List.cons_append], hc⟩
  | and a b iha ihb =>
    obtain ⟨c, rest, htext, hc⟩ := layout.enclosed_start a (iha h.1)
    exact ⟨c, _, by rw [Layout.filter, htext, List.cons_append, List.cons_append], hc⟩
  | not a => exact ⟨'!', _, rfl, by decide, by decide⟩
  | compare left comparison right =>
    obtain ⟨c, rest, htext, hc⟩ := layout.operand_cons h.1
    exact ⟨c, _, by rw [Layout.filter, htext, List.cons_append, List.cons_append],
      hc.blank, hc.equals⟩
  | truthy operand =>
    obtain ⟨c, rest, htext, hc⟩ := layout.operand_cons h
    exact ⟨c, rest, htext, hc.blank, hc.equals⟩

theorem IsConditionStart.skipBlank {text : List Char} (h : IsConditionStart text)
    (behind : List Char) : skipBlank (text ++ behind) = text ++ behind := by
  obtain ⟨c, rest, rfl, hblank, -⟩ := h
  exact skipBlank_cons hblank _

theorem Stops.gap {p : Char → Bool} {c : Char} (hspace : p ' ' = false) (h : p c = false)
    (behind : List Char) : Stops p (layout.gap ++ c :: behind) := by
  rw [Layout.gap]
  cases layout.spaces with
  | zero => exact .of_cons h behind
  | succ n =>
    rw [List.replicate_succ, List.cons_append]
    exact .of_cons hspace _

theorem IsConditionEnd.close (rest : List Char) :
    IsConditionEnd (')' :: rest) ∧ Next ')' (')' :: rest) := by
  have hnext : Next ')' (')' :: rest) := by
    rw [Next, skipBlank_cons (by decide)]
    rfl
  exact ⟨⟨.of_cons (by decide) rest, .inl hnext⟩, hnext⟩

theorem skipBlank_sign {c : Char} (h : Text.isBlank c = false) (behind : List Char) :
    skipBlank (layout.gap ++ c :: behind) = c :: behind := by
  rw [skipBlank_gap, skipBlank_cons h]

theorem Next.sign {c : Char} (h : Text.isBlank c = false) (behind : List Char) :
    Next c (layout.gap ++ c :: behind) := by
  rw [Next, skipBlank_sign h]
  rfl

/-! ### Written conditions -/

/-- The condition is read by the reader of single conditions. -/
def ReadsUnary (layout : Layout) (condition : Filter) : Prop :=
  ∀ cs rest, skipBlank cs = layout.filter condition ++ rest → IsConditionEnd rest →
    ReadsTo (readUnary cs) condition rest

/-- The condition is read as an operand of another one. -/
def ReadsPart (layout : Layout) (condition : Filter) : Prop :=
  ∀ cs rest, skipBlank cs = layout.enclosed condition (layout.filter condition) ++ rest →
    IsConditionEnd rest → ReadsTo (readUnary cs) condition rest

/-- The condition is read in front of a closing parenthesis. -/
def ReadsWhole (layout : Layout) (condition : Filter) : Prop :=
  ∀ cs rest, skipBlank cs = layout.filter condition ++ rest → IsConditionEnd rest →
    Next ')' rest → ReadsTo (readOr cs) condition rest

theorem ReadsUnary.whole {condition : Filter} (h : ReadsUnary layout condition) :
    ReadsWhole layout condition := by
  intro cs rest hcs hend hclose
  exact readsTo_or_of_unary hclose (h cs rest hcs hend)

/-- A condition that is read whole is read in parentheses. -/
theorem ReadsWhole.part {condition : Filter} (hprintable : condition.Printable)
    (h : ReadsWhole layout condition)
    (hunary : layout.encloses condition = false → ReadsUnary layout condition) :
    ReadsPart layout condition := by
  intro cs rest hcs hend
  cases hencloses : layout.encloses condition with
  | false =>
    rw [Layout.enclosed, hencloses] at hcs
    exact hunary hencloses cs rest hcs hend
  | true =>
    have hopen : skipBlank cs = '(' :: (layout.filter condition ++ ')' :: rest) := by
      rw [hcs, Layout.enclosed, if_pos hencloses]
      simp
    have hstart := (layout.filter_start hprintable).skipBlank (')' :: rest)
    obtain ⟨hclose, hnext⟩ := IsConditionEnd.close rest
    exact readsTo_parentheses hopen (h _ (')' :: rest) hstart hclose hnext)

theorem ReadsPart.or {a b : Filter} (hb : b.Printable) (ha : ReadsPart layout a)
    (hpart : ReadsPart layout b) : ReadsWhole layout (.or a b) := by
  intro cs rest hcs hend hclose
  have htext : layout.filter (.or a b) ++ rest = layout.enclosed a (layout.filter a) ++
      (layout.gap ++ '|' :: ('|' :: (layout.gap ++
        (layout.enclosed b (layout.filter b) ++ rest)))) := by
    simp [Layout.filter, Layout.sign]
  rw [htext] at hcs
  have hbetween : IsConditionEnd (layout.gap ++ '|' :: ('|' :: (layout.gap ++
      (layout.enclosed b (layout.filter b) ++ rest)))) :=
    ⟨.gap (by decide) (by decide) _, .inr (.inr (.sign (by decide) _))⟩
  have hleft := ha cs _ hcs hbetween
  have hskip : skipBlank (layout.gap ++ (layout.enclosed b (layout.filter b) ++ rest)) =
      layout.enclosed b (layout.filter b) ++ rest := by
    rw [skipBlank_gap, (layout.enclosed_start b (layout.filter_start hb)).skipBlank]
  have hright := hpart _ rest hskip hend
  exact readsTo_disjunction hclose hleft (skipBlank_sign (by decide) _) hright

theorem ReadsPart.and {a b : Filter} (hb : b.Printable) (ha : ReadsPart layout a)
    (hpart : ReadsPart layout b) : ReadsWhole layout (.and a b) := by
  intro cs rest hcs hend hclose
  have htext : layout.filter (.and a b) ++ rest = layout.enclosed a (layout.filter a) ++
      (layout.gap ++ '&' :: ('&' :: (layout.gap ++
        (layout.enclosed b (layout.filter b) ++ rest)))) := by
    simp [Layout.filter, Layout.sign]
  rw [htext] at hcs
  have hbetween : IsConditionEnd (layout.gap ++ '&' :: ('&' :: (layout.gap ++
      (layout.enclosed b (layout.filter b) ++ rest)))) :=
    ⟨.gap (by decide) (by decide) _, .inr (.inl (.sign (by decide) _))⟩
  have hleft := ha cs _ hcs hbetween
  have hskip : skipBlank (layout.gap ++ (layout.enclosed b (layout.filter b) ++ rest)) =
      layout.enclosed b (layout.filter b) ++ rest := by
    rw [skipBlank_gap, (layout.enclosed_start b (layout.filter_start hb)).skipBlank]
  have hright := hpart _ rest hskip hend
  exact readsTo_conjunction hclose hleft (skipBlank_sign (by decide) _) hright

theorem ReadsPart.not {a : Filter} (hprintable : a.Printable) (ha : ReadsPart layout a) :
    ReadsUnary layout (.not a) := by
  intro cs rest hcs hend
  have hstart := layout.enclosed_start a (layout.filter_start hprintable)
  have hread := ha (layout.enclosed a (layout.filter a) ++ rest) rest
    (hstart.skipBlank rest) hend
  refine readsTo_not hcs ?_ hread
  obtain ⟨c, behind, htext, -, hequals⟩ := hstart
  rw [htext]
  simpa using hequals

theorem reads_written_compare {left right : Operand} (comparison : Comparison)
    (hleft : left.Printable) (hright : right.Printable) :
    ReadsUnary layout (.compare left comparison right) := by
  intro cs rest hcs hend
  have htext : layout.filter (.compare left comparison right) ++ rest =
      layout.operand left ++ (layout.gap ++ (comparison.sign.toList ++
        (layout.gap ++ (layout.operand right ++ rest)))) := by
    simp [Layout.filter, Layout.sign]
  rw [htext] at hcs
  have hbehind : Stops (· == '=') (layout.gap ++ (layout.operand right ++ rest)) := by
    obtain ⟨c, start, hstart, hc⟩ := layout.operand_cons hright
    rw [hstart, List.cons_append]
    exact .gap (by decide) (by simpa using hc.equals) _
  have hsign := takeComparison?_sign comparison hbehind
  have hskip : skipBlank (layout.gap ++ (layout.operand right ++ rest)) =
      layout.operand right ++ rest := by
    rw [skipBlank_gap, skipBlank_operand layout hright]
  have hreadright := reads_operand layout right hright hskip hend.stops
  obtain ⟨c, sign, hcons, hblank, hoperand⟩ := comparison.sign_cons
  rw [hcons, List.cons_append] at hcs hsign
  have hstop : Stops isOperandChar (layout.gap ++ c :: (sign ++
      (layout.gap ++ (layout.operand right ++ rest)))) := .gap (by decide) hoperand _
  have hreadleft := reads_operand layout left hleft (skipBlank_operand layout hleft _) hstop
  have hcompare := reads_compare hreadleft (by rw [skipBlank_sign hblank, hsign]) hreadright
  obtain ⟨d, start, hstart, hd⟩ := layout.operand_cons hleft
  rw [hstart, List.cons_append] at hcs hcompare
  exact readsTo_comparison hcs hd.not hd.opening hcompare.to

theorem reads_written_truthy {operand : Operand} (h : operand.Printable) :
    ReadsUnary layout (.truthy operand) := by
  intro cs rest hcs hend
  obtain ⟨c, behind, htext, hc⟩ := layout.operand_cons h
  have hskip := skipBlank_operand layout h rest
  have hread := reads_truthy (reads_operand layout operand h hskip hend.stops) hend
  have hcons : skipBlank cs = c :: (behind ++ rest) := by
    rw [hcs, Layout.filter, htext, List.cons_append]
  refine readsTo_comparison hcons hc.not hc.opening ?_
  rw [htext, List.cons_append] at hread
  exact hread

/-- Every written condition reads back, as a whole and as an operand. -/
theorem reads_filter (condition : Filter) (h : condition.Printable) :
    ReadsWhole layout condition ∧ ReadsPart layout condition := by
  induction condition with
  | or a b iha ihb =>
    have hwhole := (iha h.1).2.or h.2 (ihb h.2).2
    -- without parentheses the left operand alone would be taken
    refine ⟨hwhole, hwhole.part h fun hfalse => ?_⟩
    exact absurd ((layout.encloses_or a b).symm.trans hfalse) (by decide)
  | and a b iha ihb =>
    have hwhole := (iha h.1).2.and h.2 (ihb h.2).2
    refine ⟨hwhole, hwhole.part h fun hfalse => ?_⟩
    exact absurd ((layout.encloses_and a b).symm.trans hfalse) (by decide)
  | not a ih =>
    have ha : a.Printable := h
    have hunary := (ih ha).2.not ha
    exact ⟨hunary.whole, hunary.whole.part h fun _ => hunary⟩
  | compare left comparison right =>
    have hunary : ReadsUnary layout _ := reads_written_compare comparison h.1 h.2
    exact ⟨hunary.whole, hunary.whole.part h fun _ => hunary⟩
  | truthy operand =>
    have hunary : ReadsUnary layout _ := reads_written_truthy h
    exact ⟨hunary.whole, hunary.whole.part h fun _ => hunary⟩

/-! ### Segments -/

theorem reads_bracket {segment : Segment} {cs rest : List Char}
    (h : ReadsTo (readBracketContent (skipBlank cs)) segment (']' :: rest)) :
    Reads (readBracket cs) segment rest := by
  obtain ⟨after, hskip, hcontent⟩ := h
  have hclose : Reads (expectNext ']' after) () rest :=
    reads_expectNext (hskip.trans (skipBlank_cons (by decide) rest))
  exact hcontent.bind fun _ => hclose.bind fun _ => ⟨_, rfl⟩

theorem reads_bracket_child (name : String) (rest : List Char) :
    Reads (readBracket (quoted name ++ ']' :: rest)) (.child name) rest := by
  refine reads_bracket (Reads.to ?_)
  rw [skipBlank_quoted]
  exact (reads_string name _).bind fun _ => ⟨_, rfl⟩

theorem reads_bracket_index {text : List Char} {i : Int} (h : IsIntegerText text)
    (hvalue : Text.signed? text = some i) (rest : List Char) :
    Reads (readBracket (text ++ ']' :: rest)) (.index i) rest := by
  have hindex := reads_index h hvalue (.of_cons (by decide) rest : Stops Char.isDigit (']' :: rest))
  refine reads_bracket (Reads.to ?_)
  rw [skipBlank_of_isIntegerText h]
  obtain ⟨c, digits, rfl, hc, -⟩ := h
  have hwildcard : c ≠ '*' := integerStart_ne hc (by decide) (by decide)
  have hfilter : c ≠ '?' := integerStart_ne hc (by decide) (by decide)
  have hstart : (c = '-' || c.isDigit) = true := by simpa using hc
  rw [List.cons_append] at hindex ⊢
  simp only [readBracketContent, if_neg hwildcard, if_neg hfilter,
    if_neg (integerStart_not_quote hc), if_pos hstart]
  exact hindex.bind fun _ => ⟨_, rfl⟩

theorem reads_bracket_wildcard (rest : List Char) :
    Reads (readBracket ('*' :: ']' :: rest)) .wildcard rest := by
  refine reads_bracket (Reads.to ?_)
  rw [skipBlank_cons (by decide)]
  exact ⟨_, rfl⟩

theorem reads_bracket_filter {condition : Filter} {cs rest : List Char}
    (h : ReadsTo (readOr cs) condition (')' :: ']' :: rest)) :
    Reads (readBracket ('?' :: '(' :: cs)) (.filter condition) rest := by
  obtain ⟨after, hafter, hcondition⟩ := h
  have hopen : Reads (expectNext '(' ('(' :: cs)) () cs :=
    reads_expectNext (skipBlank_cons (by decide) _)
  have hclose : Reads (expectNext ')' after) () (']' :: rest) :=
    reads_expectNext (hafter.trans (skipBlank_cons (by decide) _))
  refine reads_bracket (Reads.to ?_)
  rw [skipBlank_cons (by decide)]
  exact hopen.bind fun _ => hcondition.bind fun _ => hclose.bind fun _ => ⟨_, rfl⟩

theorem Layout.reads_bracket_written (layout : Layout) {condition : Filter}
    (h : condition.Printable) (rest : List Char) :
    Reads (readBracket ('?' :: '(' :: (layout.filter condition ++ ')' :: ']' :: rest)))
      (.filter condition) rest := by
  obtain ⟨hend, hnext⟩ := IsConditionEnd.close (']' :: rest)
  have hskip := (layout.filter_start h).skipBlank (')' :: ']' :: rest)
  exact reads_bracket_filter ((reads_filter condition h).1 _ _ hskip hend hnext)

theorem Layout.reads_written_bracket (layout : Layout) {segment : Segment} (h : segment.Printable)
    (hdescent : segment.isDescent = false) (rest : List Char) :
    ∃ inner, layout.segment segment ++ rest = '[' :: inner ∧
      Reads (readBracket inner) segment rest := by
  cases segment with
  | child name => exact ⟨_, by simp [Layout.segment], reads_bracket_child name rest⟩
  | index i =>
    have hindex := reads_bracket_index (isIntegerText_toString i)
      (Text.signed?_toString h.1 h.2) rest
    exact ⟨_, by simp [Layout.segment], hindex⟩
  | wildcard => exact ⟨_, by simp [Layout.segment], reads_bracket_wildcard rest⟩
  | filter condition =>
    exact ⟨_, by simp [Layout.segment], layout.reads_bracket_written h rest⟩
  | descendant inner => exact absurd hdescent (by simp [Segment.isDescent])

theorem reads_written_segment {segment : Segment} (h : segment.Printable) (rest : List Char) :
    Reads (readSegment (layout.segment segment ++ rest)) segment rest := by
  cases hdescent : segment.isDescent with
  | false =>
    obtain ⟨inner, htext, hread⟩ := layout.reads_written_bracket h hdescent rest
    rw [htext, readSegment.eq_def]
    exact hread.bind fun _ => ⟨_, rfl⟩
  | true =>
    cases segment with
    | descendant segment =>
      obtain ⟨inner, htext, hread⟩ := layout.reads_written_bracket h.1 h.2 rest
      have hdescend : layout.segment (.descendant segment) ++ rest =
          '.' :: '.' :: '[' :: inner := by
        rw [← htext]
        simp [Layout.segment]
      have hinner : Reads (readDescent ('[' :: inner)) (.descendant segment) rest := by
        rw [readDescent.eq_def]
        exact hread.bind fun _ => ⟨_, rfl⟩
      rw [hdescend, readSegment.eq_def]
      exact hinner.bind fun _ => ⟨_, rfl⟩
    | _ => exact absurd hdescent (by simp [Segment.isDescent])

theorem readSegments_of_reads {cs after : List Char} {segment : Segment} {others : List Segment}
    (h : Reads (readSegment cs) segment after) (hothers : readSegments after = .ok others) :
    readSegments cs = .ok (segment :: others) := by
  obtain ⟨shorter, hread⟩ := h
  cases cs with
  | nil => exact absurd shorter (by simp)
  | cons c rest =>
    rw [readSegments, hread]
    show (readSegments after >>= fun others => .ok (segment :: others)) = _
    rw [hothers]
    rfl

theorem readSegments_written {segments : List Segment} (h : ∀ s ∈ segments, s.Printable) :
    readSegments (segments.flatMap layout.segment) = .ok segments := by
  induction segments with
  | nil => rw [List.flatMap_nil, readSegments]
  | cons segment rest ih =>
    have hread : Reads (readSegment (layout.segment segment ++ rest.flatMap layout.segment))
        segment (rest.flatMap layout.segment) :=
      reads_written_segment (h segment List.mem_cons_self) _
    rw [List.flatMap_cons]
    exact readSegments_of_reads hread (ih fun s hs => h s (List.mem_cons_of_mem _ hs))

theorem parse_of_readPath {source : String} {segments : List Segment}
    (h : readPath source.toList = .ok segments) : parse source = .ok ⟨source, segments⟩ := by
  rw [parse]
  simp only [h]

/-- The text of a list of segments is a path of just these segments. -/
theorem parse_path (layout : Layout) (segments : List Segment) (h : ∀ s ∈ segments, s.Printable) :
    parse (String.ofList (layout.path segments)) =
      .ok ⟨String.ofList (layout.path segments), segments⟩ := by
  have hread : readPath (layout.path segments) = .ok segments := readSegments_written h
  rw [parse]
  simp only [String.toList_ofList, hread]

/-- A quoted quote, a descent, and a condition with signs, calls and the least integer. -/
theorem parse_path_filter :
    let least : Operand := .mk (.literal (.number (.integer (-2 ^ 63)))) [.index 0]
    let call : Operand := .mk .key [.call .startsWith [.mk (.literal (.string "a\\")) [], least]]
    let condition : Filter := .or (.not (.truthy call))
      (.and (.compare (.mk .current [.member "n"]) .lt least) (.not (.or (.truthy call)
        (.compare call .strictNe (.mk .undefined [])))))
    let segments : List Segment :=
      [.child "it's", .index (-1), .descendant (.filter condition), .wildcard]
    (∀ s ∈ segments, s.Printable) ∧
      parse (String.ofList (Layout.plain.path segments)) =
        .ok ⟨String.ofList (Layout.plain.path segments), segments⟩ := by
  intro least call condition segments
  have hprintable : ∀ s ∈ segments, s.Printable := by
    simp [segments, condition, call, least, Segment.Printable, Filter.Printable,
      Operand.Printable, AccessorsPrintable, Accessor.Printable, OperandsPrintable,
      Base.Printable, Base.isNumber, startsWithCall, Segment.isDescent, Fits]
  exact ⟨hprintable, parse_path Layout.plain segments hprintable⟩

end TrackerTraffic.Path
