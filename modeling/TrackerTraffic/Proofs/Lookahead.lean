import TrackerTraffic.Proofs.ReaderRules

/-!
# How far readers look ahead

A reader decides by the characters that it takes and by the one behind them.  So it takes the same
from a longer text, provided that what stands behind starts with a sign with which no word of a
condition goes on: with a closing parenthesis, or with the point or opening bracket of a segment,
which open an accessor though, unless the reader left something in front of them.
-/

namespace TrackerTraffic.Path

/-- The text starts as segments do. -/
def StartsSegment (cs : List Char) : Prop := ∃ c rest, cs = c :: rest ∧ (c = '.' ∨ c = '[')

/-- The text starts with a sign that ends every word of a condition. -/
def EndsWord (cs : List Char) : Prop :=
  ∃ c rest, cs = c :: rest ∧ (c = '.' ∨ c = '[' ∨ c = ')')

/-- The character may stand in a word of a condition. -/
def isWordChar (c : Char) : Bool := c != '.' && c != '[' && c != ')'

/-- Nothing goes on with what was read: something was left, or a parenthesis closes. -/
def Parted (rest behind : List Char) : Prop := rest ≠ [] ∨ ∃ later, behind = ')' :: later

variable {behind : List Char}

theorem StartsSegment.endsWord (h : StartsSegment behind) : EndsWord behind := by
  obtain ⟨c, rest, rfl, hc⟩ := h
  exact ⟨c, rest, rfl, hc.imp_right .inl⟩

theorem endsWord_close (rest : List Char) : EndsWord (')' :: rest) :=
  ⟨')', rest, rfl, .inr (.inr rfl)⟩

theorem EndsWord.stops (h : EndsWord behind) {p : Char → Bool} (hpoint : p '.' = false)
    (hopen : p '[' = false) (hclose : p ')' = false) : Stops p behind := by
  obtain ⟨c, rest, rfl, rfl | rfl | rfl⟩ := h
  · exact .of_cons hpoint rest
  · exact .of_cons hopen rest
  · exact .of_cons hclose rest

theorem EndsWord.skipBlank (h : EndsWord behind) (cs : List Char) :
    skipBlank (cs ++ behind) = skipBlank cs ++ behind := by
  induction cs with
  | nil =>
    obtain ⟨c, rest, rfl, rfl | rfl | rfl⟩ := h
    · exact skipBlank_cons (by decide) rest
    · exact skipBlank_cons (by decide) rest
    · exact skipBlank_cons (by decide) rest
  | cons c cs ih =>
    cases hblank : Text.isBlank c with
    | true =>
      have hskip : ∀ rest, Path.skipBlank (c :: rest) = Path.skipBlank rest :=
        fun rest => List.dropWhile_cons_of_pos hblank
      rw [List.cons_append, hskip, hskip, ih]
    | false => rw [List.cons_append, skipBlank_cons hblank, skipBlank_cons hblank, List.cons_append]

/-- A word without these signs starts the text only where it starts what is in front. -/
theorem EndsWord.isPrefixOf (h : EndsWord behind) (word : List Char)
    (hword : word.all isWordChar = true) (cs : List Char) :
    word.isPrefixOf (cs ++ behind) = word.isPrefixOf cs := by
  induction word generalizing cs with
  | nil => rw [List.isPrefixOf_nil_left, List.isPrefixOf_nil_left]
  | cons c word ih =>
    obtain ⟨hc, hword⟩ := (Bool.and_eq_true _ _).mp hword
    obtain ⟨⟨hpoint, hopen⟩, hclose⟩ : (c ≠ '.' ∧ c ≠ '[') ∧ c ≠ ')' := by
      simpa [isWordChar] using hc
    cases cs with
    | nil =>
      obtain ⟨d, rest, rfl, hd⟩ := h
      have hne : (c == d) = false := by
        rw [beq_eq_false_iff_ne]
        rcases hd with rfl | rfl | rfl
        · exact hpoint
        · exact hopen
        · exact hclose
      rw [List.nil_append, List.isPrefixOf_cons_cons, hne]
      rfl
    | cons d cs =>
      rw [List.cons_append, List.isPrefixOf_cons_cons, List.isPrefixOf_cons_cons, ih hword]

theorem EndsWord.ne_append (h : EndsWord behind) (word : List Char)
    (hword : word.all isWordChar = true) {cs : List Char} (hcs : ∀ rest, cs ≠ word ++ rest)
    (rest : List Char) : cs ++ behind ≠ word ++ rest := by
  intro heq
  have hlonger : word.isPrefixOf (cs ++ behind) = true :=
    List.isPrefixOf_iff_prefix.2 ⟨rest, heq.symm⟩
  rw [h.isPrefixOf word hword] at hlonger
  obtain ⟨rest, heq⟩ := List.isPrefixOf_iff_prefix.1 hlonger
  exact hcs rest heq.symm

theorem ne_cons_of_ne_nil {cs : List Char} (hne : cs ≠ []) {c : Char}
    (hcs : ∀ rest, cs ≠ c :: rest) (rest : List Char) : cs ++ behind ≠ c :: rest := by
  obtain ⟨d, tail, rfl⟩ := List.exists_cons_of_ne_nil hne
  intro heq
  obtain ⟨rfl, -⟩ := List.cons.inj heq
  exact hcs tail rfl

/-- What a reader takes up that may take nothing is as far apart as what it leaves. -/
theorem Parted.front {α : Type} {cs rest : List Char} {reading : Reading α (cs.length + 1)}
    {value : α} (h : Parted rest behind) (hread : Reads reading value rest) : Parted cs behind :=
  h.imp_left hread.ne_nil_of_rest

theorem Parted.of_skipBlank {cs : List Char} (h : Parted (skipBlank cs) behind) :
    Parted cs behind :=
  h.imp_left ne_nil_of_skipBlank

/-! ### Words that end by themselves -/

theorem takeRun_behind {p : Char → Bool} (cs : List Char)
    (h : (takeRun p cs).2 ≠ [] ∨ Stops p behind) :
    takeRun p (cs ++ behind) = ((takeRun p cs).1, (takeRun p cs).2 ++ behind) := by
  have hsplit : (takeRun p cs).1 ++ (takeRun p cs).2 = cs := List.takeWhile_append_dropWhile
  have hrun : ∀ c ∈ (takeRun p cs).1, p c = true := List.all_eq_true.1 List.all_takeWhile
  have hstops : Stops p ((takeRun p cs).2 ++ behind) := by
    cases hrest : (takeRun p cs).2 with
    | nil => exact h.resolve_left (absurd hrest)
    | cons c rest =>
      have hdrop : cs.dropWhile p = c :: rest := hrest
      have hhead := List.head?_dropWhile_not p cs
      rw [hdrop] at hhead
      exact .of_cons hhead _
  conv_lhs => rw [← hsplit, List.append_assoc]
  exact takeRun_append hrun hstops

theorem reads_stringTail_behind {quote : Char} {cs rest text : List Char}
    (h : Reads (readStringTail quote cs) text rest) :
    Reads (readStringTail quote (cs ++ behind)) text (rest ++ behind) := by
  induction cs using readStringTail.induct quote generalizing text with
  | case1 => exact absurd h not_reads_stuck
  | case2 after =>
    rw [readStringTail.eq_def] at h
    simp only [if_true] at h
    obtain ⟨rfl, rfl⟩ := Reads.of_pure h
    rw [List.cons_append, readStringTail.eq_def]
    simp only [if_true]
    exact ⟨_, rfl⟩
  | case3 hquote =>
    rw [readStringTail.eq_def] at h
    simp only [if_neg hquote, if_true] at h
    exact absurd h not_reads_stuck
  | case4 e after hquote ih =>
    rw [readStringTail.eq_def] at h
    simp only [if_neg hquote, if_true] at h
    obtain ⟨_, htail, rfl⟩ := reads_map_iff.1 h
    rw [List.cons_append, List.cons_append, readStringTail.eq_def]
    simp only [if_neg hquote, if_true]
    exact reads_map_iff.2 ⟨_, ih htail, rfl⟩
  | case5 c after hquote hslash ih =>
    rw [readStringTail.eq_def] at h
    simp only [if_neg hquote, if_neg hslash] at h
    obtain ⟨_, htail, rfl⟩ := reads_map_iff.1 h
    rw [List.cons_append, readStringTail.eq_def]
    simp only [if_neg hquote, if_neg hslash]
    exact reads_map_iff.2 ⟨_, ih htail, rfl⟩

theorem reads_string_behind {quote : Char} {cs rest : List Char} {text : String}
    (h : Reads (readString quote cs) text rest) :
    Reads (readString quote (cs ++ behind)) text (rest ++ behind) := by
  obtain ⟨_, htail, rfl⟩ := reads_map_iff.1 h
  exact reads_map_iff.2 ⟨_, reads_stringTail_behind htail, rfl⟩

theorem reads_number_behind {c : Char} {cs rest : List Char} {v : Json}
    (h : Reads (readNumber c cs) v rest) (hrest : Parted rest behind) :
    Reads (readNumber c (cs ++ behind)) v (rest ++ behind) := by
  have hstops : (∃ later, behind = ')' :: later) → Stops isNumberChar behind := by
    rintro ⟨later, rfl⟩
    exact .of_cons (by decide) later
  unfold readNumber at h
  simp only at h
  split at h
  · rename_i value hvalue
    obtain ⟨_, heq⟩ := h
    obtain ⟨rfl, rfl⟩ := Taken.mk.inj (Except.ok.inj heq)
    have hrun := takeRun_behind cs (hrest.imp_right hstops)
    simp only [readNumber, hrun, hvalue]
    exact ⟨_, rfl⟩
  · exact absurd h not_reads_stuck

theorem reads_patternText_behind {inClass : Bool} {cs rest text : List Char}
    (h : Reads (readPatternText inClass cs) text rest) :
    Reads (readPatternText inClass (cs ++ behind)) text (rest ++ behind) := by
  induction inClass, cs using readPatternText.induct generalizing text with
  | case1 => exact absurd h not_reads_stuck
  | case2 inClass c after hclose =>
    rw [readPatternText.eq_def] at h
    simp only [if_pos hclose] at h
    obtain ⟨rfl, rfl⟩ := Reads.of_pure h
    rw [List.cons_append, readPatternText.eq_def]
    simp only [if_pos hclose]
    exact ⟨_, rfl⟩
  | case3 inClass hclose =>
    rw [readPatternText.eq_def] at h
    simp only [if_neg hclose, if_true] at h
    exact absurd h not_reads_stuck
  | case4 inClass e after hclose ih =>
    rw [readPatternText.eq_def] at h
    simp only [if_neg hclose, if_true] at h
    obtain ⟨_, htail, rfl⟩ := (reads_map_iff (f := fun inner => '\\' :: e :: inner)).1 h
    rw [List.cons_append, List.cons_append, readPatternText.eq_def]
    simp only [if_neg hclose, if_true]
    exact (reads_map_iff (f := fun inner => '\\' :: e :: inner)).2 ⟨_, ih htail, rfl⟩
  | case5 inClass c after hclose hslash ih =>
    rw [readPatternText.eq_def] at h
    simp only [if_neg hclose, if_neg hslash] at h
    obtain ⟨_, htail, rfl⟩ := reads_map_iff.1 h
    rw [List.cons_append, readPatternText.eq_def]
    simp only [if_neg hclose, if_neg hslash]
    exact reads_map_iff.2 ⟨_, ih htail, rfl⟩

/-- A name ends at a segment, but not at a parenthesis. -/
theorem reads_name_behind (hbehind : StartsSegment behind) {cs rest : List Char} {name : String}
    (h : Reads (readName cs) name rest) :
    Reads (readName (cs ++ behind)) name (rest ++ behind) := by
  have hstops : Stops isNameChar behind := by
    obtain ⟨c, rest, rfl, rfl | rfl⟩ := hbehind
    · exact .of_cons rfl rest
    · exact .of_cons rfl rest
  have hrun := takeRun_behind cs (.inr hstops)
  unfold readName at h
  split at h
  · exact absurd h not_reads_stuck
  · rename_i hne
    obtain ⟨_, heq⟩ := h
    obtain ⟨rfl, rfl⟩ := Taken.mk.inj (Except.ok.inj heq)
    rw [readName, dif_neg (by rwa [hrun])]
    simp only [hrun]
    exact ⟨_, rfl⟩

/-! ### Words in front of such signs -/

section Behind

variable (hbehind : EndsWord behind)

include hbehind

theorem splitInteger_behind (cs : List Char) :
    splitInteger (cs ++ behind) = ((splitInteger cs).1, (splitInteger cs).2 ++ behind) := by
  have hrun : ∀ rest, takeRun Char.isDigit (rest ++ behind) =
      ((takeRun Char.isDigit rest).1, (takeRun Char.isDigit rest).2 ++ behind) :=
    fun rest => takeRun_behind rest (.inr (hbehind.stops rfl rfl rfl))
  cases cs with
  | nil =>
    obtain ⟨c, rest, rfl, rfl | rfl | rfl⟩ := hbehind
    · rfl
    · rfl
    · rfl
  | cons c rest =>
    by_cases hminus : c = '-'
    · subst hminus
      simp only [List.cons_append, splitInteger, hrun]
    · have hplain : ∀ rest, splitInteger (c :: rest) = takeRun Char.isDigit (c :: rest) := by
        intro rest
        unfold splitInteger
        split
        · rename_i heq
          exact absurd (List.cons.inj heq).1 hminus
        · rfl
      rw [List.cons_append, hplain, hplain, ← List.cons_append, hrun]

theorem reads_index_behind {cs rest : List Char} {i : Int} (h : Reads (readIndex cs) i rest) :
    Reads (readIndex (cs ++ behind)) i (rest ++ behind) := by
  have hsplit := splitInteger_behind hbehind cs
  unfold readIndex at h
  split at h
  · rename_i n hn
    obtain ⟨_, heq⟩ := h
    obtain ⟨rfl, rfl⟩ := Taken.mk.inj (Except.ok.inj heq)
    have hread : Text.signed? (splitInteger (cs ++ behind)).1 = some n := by rw [hsplit, hn]
    unfold readIndex
    split
    · rename_i m hm
      obtain rfl : m = n := Option.some.inj (hm.symm.trans hread)
      simp only [hsplit]
      exact ⟨_, rfl⟩
    · rename_i hnone
      exact absurd (hnone.symm.trans hread) (by simp)
  · exact absurd h not_reads_stuck

theorem reads_patternFlags_behind {cs rest flags : List Char}
    (h : Reads (readPatternFlags cs) flags rest) :
    Reads (readPatternFlags (cs ++ behind)) flags (rest ++ behind) := by
  induction cs using readPatternFlags.induct generalizing flags with
  | case1 =>
    obtain ⟨rfl, rfl⟩ := Reads.of_pure h
    obtain ⟨c, rest, rfl, rfl | rfl | rfl⟩ := hbehind
    · exact ⟨_, rfl⟩
    · exact ⟨_, rfl⟩
    · exact ⟨_, rfl⟩
  | case2 c after hletter =>
    rw [readPatternFlags.eq_def] at h
    simp only [if_pos hletter] at h
    obtain ⟨rfl, rfl⟩ := Reads.of_pure h
    rw [List.cons_append, readPatternFlags.eq_def]
    simp only [if_pos hletter]
    exact ⟨_, rfl⟩
  | case3 c after hletter hflag ih =>
    rw [readPatternFlags.eq_def] at h
    simp only [if_neg hletter, if_pos hflag] at h
    obtain ⟨_, htail, rfl⟩ := reads_map_iff.1 h
    rw [List.cons_append, readPatternFlags.eq_def]
    simp only [if_neg hletter, if_pos hflag]
    exact reads_map_iff.2 ⟨_, ih htail, rfl⟩
  | case4 c after hletter hflag hother ih =>
    rw [readPatternFlags.eq_def] at h
    simp only [if_neg hletter, if_neg hflag, if_pos hother] at h
    have htail := reads_same_iff.1 h
    rw [List.cons_append, readPatternFlags.eq_def]
    simp only [if_neg hletter, if_neg hflag, if_pos hother]
    exact reads_same_iff.2 (ih htail)
  | case5 c after hletter hflag hother =>
    rw [readPatternFlags.eq_def] at h
    simp only [if_neg hletter, if_neg hflag, if_neg hother] at h
    exact absurd h not_reads_stuck

theorem reads_pattern_behind {cs rest : List Char} {p : Pattern}
    (h : Reads (readPattern cs) p rest) :
    Reads (readPattern (cs ++ behind)) p (rest ++ behind) := by
  obtain ⟨text, _, _, htext, h⟩ := Reads.of_bind h
  obtain ⟨flags, after, _, hflags, h⟩ := Reads.of_bind h
  refine (reads_patternText_behind htext).bind fun _ => ?_
  refine (reads_patternFlags_behind hbehind hflags).bind fun _ => ?_
  dsimp only at h ⊢
  split at h
  · rename_i q hparse
    obtain ⟨rfl, rfl⟩ := Reads.of_pure h
    simp only [hparse]
    exact ⟨_, rfl⟩
  · exact absurd h not_reads_stuck

/-! ### Operands -/

theorem reads_base_behind {cs rest : List Char} {base : Base} (h : Reads (readBase cs) base rest)
    (hrest : Parted rest behind) :
    Reads (readBase (cs ++ behind)) base (rest ++ behind) := by
  cases cs with
  | nil => exact absurd h not_reads_stuck
  | cons c cs =>
    have hkey := hbehind.isPrefixOf keyName (by decide) cs
    have hstops : Stops isIdentChar behind := hbehind.stops (by decide) (by decide) (by decide)
    have hident := takeRun_behind cs (.inr hstops)
    rw [List.cons_append]
    unfold readBase at h ⊢
    simp only [hkey, hident] at h ⊢
    split_ifs at h ⊢ with hat hproperty hquote hslash hnumber hletter
    · obtain ⟨rfl, rfl⟩ := Reads.of_pure h
      have hlength : keyName.length ≤ cs.length :=
        (List.isPrefixOf_iff_prefix.1 hproperty).length_le
      simp only [List.drop_append_of_le_length hlength]
      exact ⟨_, rfl⟩
    · obtain ⟨rfl, rfl⟩ := Reads.of_pure h
      exact ⟨_, rfl⟩
    · obtain ⟨_, hstring, rfl⟩ :=
        (reads_map_iff (f := fun text => Base.literal (.string text))).1 h
      exact (reads_map_iff (f := fun text => Base.literal (.string text))).2
        ⟨_, reads_string_behind hstring, rfl⟩
    · obtain ⟨_, hpattern, rfl⟩ := reads_map_iff.1 h
      exact reads_map_iff.2 ⟨_, reads_pattern_behind hbehind hpattern, rfl⟩
    · -- of all bases only a number goes on behind a point
      obtain ⟨_, hvalue, rfl⟩ := reads_map_iff.1 h
      exact reads_map_iff.2 ⟨_, reads_number_behind hvalue hrest, rfl⟩
    · split at h
      · obtain ⟨rfl, rfl⟩ := Reads.of_pure h
        exact ⟨_, rfl⟩
      · exact absurd h not_reads_stuck
    · exact absurd h not_reads_stuck

theorem reads_expectNext_behind {c : Char} {cs rest : List Char}
    (h : Reads (expectNext c cs) () rest) :
    Reads (expectNext c (cs ++ behind)) () (rest ++ behind) := by
  refine reads_expectNext ?_
  rw [hbehind.skipBlank, reads_expectNext_spec h, List.cons_append]

theorem reads_accessor_behind {cs rest : List Char} {accessor : Accessor}
    (h : Reads (readAccessor cs) accessor rest) :
    Reads (readAccessor (cs ++ behind)) accessor (rest ++ behind) := by
  cases cs with
  | nil => exact absurd h not_reads_stuck
  | cons c cs =>
    rw [readAccessor] at h
    rw [List.cons_append, readAccessor]
    split_ifs at h ⊢
    · obtain ⟨_, hname, rfl⟩ := reads_map_iff.1 h
      exact reads_map_iff.2 ⟨_, reads_string_behind hname, rfl⟩
    · obtain ⟨_, hindex, rfl⟩ := reads_map_iff.1 h
      have hlonger := reads_index_behind hbehind hindex
      exact reads_map_iff.2 ⟨_, hlonger, rfl⟩

theorem reads_bracketAccessor_behind {cs rest : List Char} {accessor : Accessor}
    (h : Reads (readBracketAccessor cs) accessor rest) :
    Reads (readBracketAccessor (cs ++ behind)) accessor (rest ++ behind) := by
  obtain ⟨_, _, _, haccessor, h⟩ := Reads.of_bind h
  obtain ⟨_, _, _, hclose, hpure⟩ := Reads.of_bind h
  obtain ⟨rfl, rfl⟩ := hpure.of_pure
  have hlonger := reads_accessor_behind hbehind haccessor
  rw [← hbehind.skipBlank] at hlonger
  exact hlonger.bind fun _ => (reads_expectNext_behind hbehind hclose).bind fun _ => ⟨_, rfl⟩

-- a number goes on behind a point, and accessors behind both signs of segments, so in front of
-- these an operand has to leave something; what a call leaves stands behind its parenthesis
mutual
theorem reads_operand_behind {cs rest : List Char} {operand : Operand}
    (h : Reads (readOperand cs) operand rest) (hrest : Parted rest behind) :
    Reads (readOperand (cs ++ behind)) operand (rest ++ behind) := by
  obtain ⟨base, accessors, after, hbase, haccessors, rfl⟩ := reads_operand_iff.1 h
  have hlength := skipBlank_length cs
  have hshorter := hbase.shorter
  have hlonger := reads_base_behind hbehind hbase (hrest.front haccessors)
  have hothers := reads_accessors_behind haccessors hrest
  rw [← hbehind.skipBlank] at hlonger
  exact reads_operand_iff.2 ⟨base, accessors, _, hlonger, hothers, rfl⟩
termination_by 4 * cs.length

theorem reads_accessors_behind {cs rest : List Char} {accessors : List Accessor}
    (h : Reads (readAccessors cs) accessors rest) (hrest : Parted rest behind) :
    Reads (readAccessors (cs ++ behind)) accessors (rest ++ behind) := by
  cases hcs : cs with
  | nil =>
    subst hcs
    obtain ⟨rfl, rfl⟩ := (reads_accessors_end_iff (by simp)).1 h
    obtain ⟨later, rfl⟩ := hrest.resolve_left (not_not.2 rfl)
    exact (reads_accessors_end_iff (by simp)).2 ⟨rfl, rfl⟩
  | cons c tail =>
    have hlength : cs.length = tail.length + 1 := by rw [hcs, List.length_cons]
    rw [hcs] at h
    rw [List.cons_append]
    by_cases hpoint : c = '.'
    · subst hpoint
      have hstops : Stops isIdentChar behind := hbehind.stops (by decide) (by decide) (by decide)
      have hrun := takeRun_behind tail (.inr hstops)
      obtain ⟨hname, hcases⟩ := reads_point_iff.1 h
      have hskip : (skipBlank (takeRun isIdentChar tail).2).length < tail.length :=
        (skipBlank_length _).trans_lt (takeRun_length hname)
      rw [reads_point_iff, hrun, hbehind.skipBlank]
      refine ⟨hname, hcases.imp ?_ ?_⟩
      · rintro ⟨inner, method, args, after, others, hopen, hmethod, hargs, hothers, rfl⟩
        have hinner : inner.length < tail.length :=
          (length_lt_of_skipBlank hopen).trans (takeRun_length hname)
        have hshorter := hargs.shorter
        refine ⟨_, method, args, _, others, ?_, hmethod, reads_arguments_behind hargs,
          reads_accessors_behind hothers hrest, rfl⟩
        rw [hopen, List.cons_append]
      · rintro ⟨hclosed, others, hothers, rfl⟩
        exact ⟨hbehind.ne_append ['('] (by decide) hclosed, others,
          reads_accessors_behind hothers hrest, rfl⟩
    · by_cases hopen : c = '['
      · subst hopen
        obtain ⟨first, others, after, hfirst, hothers, rfl⟩ := reads_open_iff.1 h
        have hshorter := hfirst.shorter
        exact reads_open_iff.2 ⟨first, others, _, reads_bracketAccessor_behind hbehind hfirst,
          reads_accessors_behind hothers hrest, rfl⟩
      · have hend : ∀ later, ∀ d ∈ (c :: later).head?, d ≠ '.' ∧ d ≠ '[' := by
          intro later d hd
          obtain rfl := Option.some.inj hd
          exact ⟨hpoint, hopen⟩
        obtain ⟨rfl, rfl⟩ := (reads_accessors_end_iff (hend tail)).1 h
        exact (reads_accessors_end_iff (hend (tail ++ behind))).2 ⟨rfl, rfl⟩
termination_by 4 * cs.length

theorem reads_arguments_behind {cs rest : List Char} {args : List Operand}
    (h : Reads (readArguments cs) args rest) :
    Reads (readArguments (cs ++ behind)) args (rest ++ behind) := by
  have hlength := skipBlank_length cs
  rw [reads_arguments_iff] at h
  rw [reads_arguments_iff, hbehind.skipBlank]
  refine h.imp ?_ ?_
  · rintro ⟨hclose, rfl⟩
    rw [hclose]
    exact ⟨rfl, rfl⟩
  · rintro ⟨hopen, hargs⟩
    exact ⟨ne_cons_of_ne_nil hargs.ne_nil hopen, reads_argumentList_behind hargs⟩
termination_by 4 * cs.length + 2

theorem reads_argumentList_behind {cs rest : List Char} {args : List Operand}
    (h : Reads (readArgumentList cs) args rest) :
    Reads (readArgumentList (cs ++ behind)) args (rest ++ behind) := by
  obtain ⟨first, after, hfirst, hcases⟩ := reads_argumentList_iff.1 h
  have hshorter := hfirst.shorter
  have hafter : after ≠ [] := by
    refine ne_nil_of_skipBlank ?_
    rcases hcases with ⟨hclose, -⟩ | ⟨_, _, hcomma, -⟩
    · simp [hclose]
    · simp [hcomma]
  rw [reads_argumentList_iff]
  refine ⟨first, _, reads_operand_behind hfirst (.inl hafter), ?_⟩
  rw [hbehind.skipBlank]
  refine hcases.imp ?_ ?_
  · rintro ⟨hclose, rfl⟩
    rw [hclose]
    exact ⟨rfl, rfl⟩
  · rintro ⟨next, others, hcomma, hothers, rfl⟩
    have hnext := length_lt_of_skipBlank hcomma
    rw [hcomma]
    exact ⟨_, others, rfl, reads_argumentList_behind hothers, rfl⟩
termination_by 4 * cs.length + 1
end

/-! ### Conditions -/

theorem takeComparison?_behind {cs rest : List Char} {comparison : Comparison}
    (h : takeComparison? cs = some (comparison, rest)) :
    takeComparison? (cs ++ behind) = some (comparison, rest ++ behind) := by
  -- the shorter signs are starts of longer ones
  have hne : ∀ {rest}, (∀ next, rest = '=' :: next → False) →
      ∀ next, rest ++ behind = '=' :: next → False := hbehind.ne_append ['='] (by decide)
  unfold takeComparison? at h
  split at h
  case h_9 => cases h
  case h_3 hlonger | h_4 hlonger | h_7 hlonger | h_8 hlonger =>
    obtain ⟨rfl, rfl⟩ := Prod.mk.inj (Option.some.inj h)
    have hlongest := hne hlonger
    simp only [List.cons_append, takeComparison?]
  all_goals
    obtain ⟨rfl, rfl⟩ := Prod.mk.inj (Option.some.inj h)
    rfl

theorem takeComparison?_none_behind {cs : List Char} (h : takeComparison? cs = none) :
    takeComparison? (cs ++ behind) = none := by
  refine Option.eq_none_iff_forall_ne_some.2 fun ⟨comparison, rest⟩ hsome => ?_
  have hword : comparison.sign.toList.all isWordChar = true := by cases comparison <;> decide
  refine hbehind.ne_append _ hword ?_ rest (eq_of_takeComparison? hsome)
  rintro inner rfl
  exact takeComparison?_ne_none comparison inner h

theorem reads_comparison_behind {cs rest : List Char} {condition : Filter}
    (h : Reads (readComparison cs) condition rest) (hrest : Parted rest behind) :
    Reads (readComparison (cs ++ behind)) condition (rest ++ behind) := by
  obtain ⟨left, after, hleft, hcases⟩ := reads_comparison_iff.1 h
  have hafter : Parted after behind := by
    refine Parted.of_skipBlank ?_
    rcases hcases with ⟨-, rfl, -⟩ | ⟨_, _, _, hsign, -⟩
    · exact hrest
    · refine .inl fun hnil => ?_
      rw [hnil] at hsign
      cases hsign
  rw [reads_comparison_iff]
  refine ⟨left, _, reads_operand_behind hbehind hleft hafter, ?_⟩
  rw [hbehind.skipBlank]
  refine hcases.imp ?_ ?_
  · rintro ⟨hnone, rfl, rfl⟩
    exact ⟨takeComparison?_none_behind hbehind hnone, rfl, rfl⟩
  · rintro ⟨comparison, next, right, hsign, hright, rfl⟩
    exact ⟨comparison, _, right, takeComparison?_behind hbehind hsign,
      reads_operand_behind hbehind hright hrest, rfl⟩

end Behind

theorem startsNot_behind {cs next : List Char} (h : StartsNot cs next) (hnext : next ≠ []) :
    StartsNot (cs ++ behind) (next ++ behind) := by
  obtain ⟨rfl, hequals⟩ := h
  refine ⟨rfl, ?_⟩
  rwa [List.head?_append_of_ne_nil next hnext]

theorem not_startsNot_behind (hbehind : EndsWord behind) {cs : List Char}
    (h : ∀ next, ¬ StartsNot cs next) (next : List Char) : ¬ StartsNot (cs ++ behind) next := by
  rintro ⟨heq, hequals⟩
  cases cs with
  | nil => exact hbehind.ne_append ['!'] (by decide) (by simp) next heq
  | cons c tail =>
    rw [List.cons_append] at heq
    obtain ⟨rfl, rfl⟩ := List.cons.inj heq
    refine h tail ⟨rfl, fun htail => hequals ?_⟩
    rw [List.head?_append, htail]
    rfl

-- a sign of inequality is a whole comparison sign, so only its start can be cut off
mutual
theorem reads_or_behind (hbehind : EndsWord behind) {cs rest : List Char} {condition : Filter}
    (h : Reads (readOr cs) condition rest) (hrest : Parted rest behind) :
    Reads (readOr (cs ++ behind)) condition (rest ++ behind) := by
  obtain ⟨first, after, hfirst, htail⟩ := reads_or_iff.1 h
  have hshorter := hfirst.shorter
  exact reads_or_iff.2 ⟨first, _, reads_and_behind hbehind hfirst (hrest.front htail),
    reads_orTail_behind hbehind htail hrest⟩
termination_by 4 * cs.length + 2

theorem reads_orTail_behind (hbehind : EndsWord behind) {left : Filter} {cs rest : List Char}
    {condition : Filter} (h : Reads (readOrTail left cs) condition rest)
    (hrest : Parted rest behind) :
    Reads (readOrTail left (cs ++ behind)) condition (rest ++ behind) := by
  rw [reads_orTail_iff] at h
  rw [reads_orTail_iff, hbehind.skipBlank]
  refine h.imp ?_ ?_
  · rintro ⟨next, right, after, hsign, hright, htail⟩
    have hnext : next.length < cs.length := Nat.lt_of_succ_lt (length_lt_of_skipBlank hsign)
    have hshorter := hright.shorter
    rw [hsign]
    exact ⟨_, right, _, rfl, reads_and_behind hbehind hright (hrest.front htail),
      reads_orTail_behind hbehind htail hrest⟩
  · rintro ⟨hnone, rfl, rfl⟩
    exact ⟨hbehind.ne_append ['|', '|'] (by decide) hnone, rfl, rfl⟩
termination_by 4 * cs.length

theorem reads_and_behind (hbehind : EndsWord behind) {cs rest : List Char} {condition : Filter}
    (h : Reads (readAnd cs) condition rest) (hrest : Parted rest behind) :
    Reads (readAnd (cs ++ behind)) condition (rest ++ behind) := by
  obtain ⟨first, after, hfirst, htail⟩ := reads_and_iff.1 h
  have hshorter := hfirst.shorter
  exact reads_and_iff.2 ⟨first, _, reads_unary_behind hbehind hfirst (hrest.front htail),
    reads_andTail_behind hbehind htail hrest⟩
termination_by 4 * cs.length + 1

theorem reads_andTail_behind (hbehind : EndsWord behind) {left : Filter} {cs rest : List Char}
    {condition : Filter} (h : Reads (readAndTail left cs) condition rest)
    (hrest : Parted rest behind) :
    Reads (readAndTail left (cs ++ behind)) condition (rest ++ behind) := by
  rw [reads_andTail_iff] at h
  rw [reads_andTail_iff, hbehind.skipBlank]
  refine h.imp ?_ ?_
  · rintro ⟨next, right, after, hsign, hright, htail⟩
    have hnext : next.length < cs.length := Nat.lt_of_succ_lt (length_lt_of_skipBlank hsign)
    have hshorter := hright.shorter
    rw [hsign]
    exact ⟨_, right, _, rfl, reads_unary_behind hbehind hright (hrest.front htail),
      reads_andTail_behind hbehind htail hrest⟩
  · rintro ⟨hnone, rfl, rfl⟩
    exact ⟨hbehind.ne_append ['&', '&'] (by decide) hnone, rfl, rfl⟩
termination_by 4 * cs.length

theorem reads_unary_behind (hbehind : EndsWord behind) {cs rest : List Char}
    {condition : Filter} (h : Reads (readUnary cs) condition rest) (hrest : Parted rest behind) :
    Reads (readUnary (cs ++ behind)) condition (rest ++ behind) := by
  rw [reads_unary_iff] at h
  rw [reads_unary_iff, hbehind.skipBlank]
  refine h.imp ?_ (Or.imp ?_ ?_)
  · rintro ⟨next, inner, hnot, hinner, rfl⟩
    have hnext := length_lt_of_skipBlank hnot.1
    exact ⟨_, inner, startsNot_behind hnot hinner.ne_nil,
      reads_unary_behind hbehind hinner hrest, rfl⟩
  · rintro ⟨next, after, hopen, hinner, hclose⟩
    have hnext := length_lt_of_skipBlank hopen
    have hafter : after ≠ [] := ne_nil_of_skipBlank (by simp [hclose])
    refine ⟨_, _, ?_, reads_or_behind hbehind hinner (.inl hafter), ?_⟩
    · rw [hopen, List.cons_append]
    · rw [hbehind.skipBlank, hclose, List.cons_append]
  · rintro ⟨hnot, hopen, hcomparison⟩
    exact ⟨not_startsNot_behind hbehind hnot, hbehind.ne_append ['('] (by decide) hopen,
      reads_comparison_behind hbehind hcomparison hrest⟩
termination_by 4 * cs.length
end

end TrackerTraffic.Path
