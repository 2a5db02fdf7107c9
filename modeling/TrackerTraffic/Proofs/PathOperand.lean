import TrackerTraffic.Proofs.ReaderRules

/-!
# Reading written operands

Every reader takes back what a layout wrote and leaves what follows, where what
follows must not go on with the operand: it starts with none of the letters,
digits, points and brackets of which operands are made.
-/

namespace TrackerTraffic.Path

variable (layout : Layout)

/-! ### Operands -/

/-- The character would go on with an operand. -/
def isOperandChar (c : Char) : Bool := isIdentChar c || isNumberChar c || c == '.' || c == '['

theorem Stops.operand {rest : List Char} (h : Stops isOperandChar rest) :
    Stops isIdentChar rest ∧ Stops isNumberChar rest ∧ ∀ c ∈ rest.head?, c ≠ '.' ∧ c ≠ '[' := by
  have hparts : ∀ c, rest.head? = some c →
      isIdentChar c = false ∧ isNumberChar c = false ∧ c ≠ '.' ∧ c ≠ '[' := by
    intro c hc
    simpa [isOperandChar, and_assoc] using h c hc
  exact ⟨fun c hc => (hparts c hc).1, fun c hc => (hparts c hc).2.1,
    fun c hc => (hparts c hc).2.2⟩

/-- The character starts an operand and nothing else that may stand in its place. -/
structure IsStart (c : Char) : Prop where
  blank : Text.isBlank c = false
  not : c ≠ '!'
  opening : c ≠ '('
  closing : c ≠ ')'
  equals : c ≠ '='

theorem isStart_iff {c : Char} :
    IsStart c ↔ Text.isBlank c = false ∧ c ≠ '!' ∧ c ≠ '(' ∧ c ≠ ')' ∧ c ≠ '=' :=
  ⟨fun h => ⟨h.blank, h.not, h.opening, h.closing, h.equals⟩,
    fun h => ⟨h.1, h.2.1, h.2.2.1, h.2.2.2.1, h.2.2.2.2⟩⟩

instance (c : Char) : Decidable (IsStart c) := decidable_of_iff _ isStart_iff.symm

theorem IsStart.of_integerStart {c : Char} (hc : c = '-' ∨ c.isDigit = true) : IsStart c where
  blank := by
    rcases hc with rfl | hc
    · decide
    · exact isBlank_of_isDigit hc
  not := integerStart_ne hc (by decide) (by decide)
  opening := integerStart_ne hc (by decide) (by decide)
  closing := integerStart_ne hc (by decide) (by decide)
  equals := integerStart_ne hc (by decide) (by decide)

theorem Base.text_cons {base : Base} (h : base.Printable) :
    ∃ c rest, base.text = c :: rest ∧ IsStart c := by
  cases base with
  | current => exact ⟨'@', [], rfl, by decide⟩
  | key => exact ⟨'@', keyName, rfl, by decide⟩
  | undefined => exact ⟨'u', "ndefined".toList, rfl, by decide⟩
  | pattern p => exact absurd h id
  | literal value =>
    cases value with
    | null => exact ⟨'n', "ull".toList, rfl, by decide⟩
    | bool b =>
      cases b with
      | true => exact ⟨'t', "rue".toList, rfl, by decide⟩
      | false => exact ⟨'f', "alse".toList, rfl, by decide⟩
    | string text => exact ⟨'\'', _, rfl, by decide⟩
    | number n =>
      cases n with
      | integer i =>
        obtain ⟨c, digits, htext, hc, -⟩ := isIntegerText_toString i
        exact ⟨c, digits, htext, .of_integerStart hc⟩
      | float x => exact absurd h id
    | array items => exact absurd h id
    | object members => exact absurd h id

theorem Layout.operand_cons {operand : Operand} (h : operand.Printable) :
    ∃ c rest, layout.operand operand = c :: rest ∧ IsStart c := by
  obtain ⟨base, accessors⟩ := operand
  obtain ⟨c, rest, htext, hstart⟩ := base.text_cons h.1
  exact ⟨c, rest ++ layout.accessors accessors, by rw [Layout.operand, htext, List.cons_append],
    hstart⟩

theorem skipBlank_operand {operand : Operand} (h : operand.Printable) (rest : List Char) :
    skipBlank (layout.operand operand ++ rest) = layout.operand operand ++ rest := by
  obtain ⟨c, behind, htext, hstart⟩ := layout.operand_cons h
  rw [htext]
  exact skipBlank_cons hstart.blank _

theorem Method.ofName?_name (method : Method) : Method.ofName? method.name = some method := by
  cases method <;> decide

theorem Method.isAlpha_of_mem_name (method : Method) :
    ∀ c ∈ method.name.toList, c.isAlpha = true := by
  rw [← List.all_eq_true]
  cases method <;> decide

theorem Method.name_ne_nil (method : Method) : method.name.toList ≠ [] := by
  cases method <;> decide

theorem reads_call_accessors {method : Method} {args : List Operand} {others : List Accessor}
    {inner after rest : List Char} (hargs : Reads (readArguments inner) args after)
    (hothers : Reads (readAccessors after) others rest) :
    Reads (readAccessors ('.' :: (method.name.toList ++ '(' :: inner)))
      (.call method args :: others) rest := by
  have hletters : ∀ c ∈ method.name.toList, isIdentChar c = true :=
    fun c hc => isIdentChar_of_isAlpha (method.isAlpha_of_mem_name c hc)
  have hrun : takeRun isIdentChar (method.name.toList ++ '(' :: inner) =
      (method.name.toList, '(' :: inner) :=
    takeRun_append hletters (.of_cons (by decide) inner)
  rw [reads_point_iff, hrun]
  refine ⟨method.name_ne_nil, .inl ⟨inner, method, args, after, others, ?_, ?_, hargs, hothers,
    rfl⟩⟩
  · exact skipBlank_cons (by decide) inner
  · rw [String.ofList_toList, Method.ofName?_name]

theorem reads_last_argument {cs rest : List Char} {first : Operand}
    (hfirst : Reads (readOperand cs) first (')' :: rest)) :
    Reads (readArgumentList cs) [first] rest :=
  reads_argumentList_iff.2
    ⟨first, _, hfirst, .inl ⟨skipBlank_cons (by decide) rest, rfl⟩⟩

theorem reads_next_argument {cs behind rest : List Char} {first : Operand} {others : List Operand}
    (hfirst : Reads (readOperand cs) first (',' :: behind))
    (hothers : Reads (readArgumentList behind) others rest) :
    Reads (readArgumentList cs) (first :: others) rest :=
  reads_argumentList_iff.2
    ⟨first, _, hfirst, .inr ⟨behind, others, skipBlank_cons (by decide) behind, hothers, rfl⟩⟩

theorem Layout.accessors_stop {base : Base} {accessors : List Accessor}
    (hcall : ¬(base.isNumber = true ∧ startsWithCall accessors = true)) {rest : List Char}
    (hrest : Stops isOperandChar rest) :
    Stops isIdentChar (layout.accessors accessors ++ rest) ∧
      (base.isNumber = true → Stops isNumberChar (layout.accessors accessors ++ rest)) := by
  obtain ⟨hident, hnumber, -⟩ := hrest.operand
  cases accessors with
  | nil =>
    rw [Layout.accessors, List.nil_append]
    exact ⟨hident, fun _ => hnumber⟩
  | cons first others =>
    cases first with
    | member name =>
      exact ⟨.of_cons (by decide) _, fun _ => .of_cons (by decide) _⟩
    | index i =>
      exact ⟨.of_cons (by decide) _, fun _ => .of_cons (by decide) _⟩
    | call method args =>
      exact ⟨.of_cons (by decide) _, fun hbase => absurd ⟨hbase, rfl⟩ hcall⟩

mutual
theorem reads_operand (operand : Operand) (h : operand.Printable) {cs rest : List Char}
    (hcs : skipBlank cs = layout.operand operand ++ rest) (hrest : Stops isOperandChar rest) :
    Reads (readOperand cs) operand rest := by
  match operand with
  | .mk base accessors =>
    obtain ⟨hbase, haccessors, hcall⟩ := h
    obtain ⟨hident, hnumber⟩ := layout.accessors_stop hcall hrest
    have hread : Reads (readBase (skipBlank cs)) base (layout.accessors accessors ++ rest) := by
      rw [hcs, Layout.operand, List.append_assoc]
      exact reads_base hbase hident hnumber
    have hfollow := reads_accessors accessors haccessors hrest
    exact reads_operand_iff.2 ⟨base, accessors, _, hread, hfollow, rfl⟩
termination_by sizeOf operand

theorem reads_accessors (accessors : List Accessor) (h : AccessorsPrintable accessors)
    {rest : List Char} (hrest : Stops isOperandChar rest) :
    Reads (readAccessors (layout.accessors accessors ++ rest)) accessors rest := by
  match accessors with
  | [] => exact (reads_accessors_end_iff hrest.operand.2.2).2 ⟨rfl, rfl⟩
  | .member name :: others =>
    have hothers := reads_accessors others h.2 hrest
    have hname := reads_bracketed_member name (layout.accessors others ++ rest)
    have htext : layout.accessors (.member name :: others) ++ rest =
        '[' :: (quoted name ++ ']' :: (layout.accessors others ++ rest)) := by
      simp [Layout.accessors, Layout.accessor]
    rw [htext]
    exact reads_open_iff.2 ⟨_, _, _, hname, hothers, rfl⟩
  | .index i :: others =>
    have hothers := reads_accessors others h.2 hrest
    have hindex := reads_bracketed_index (isIntegerText_toString i)
      (Text.signed?_toString h.1.1 h.1.2) (layout.accessors others ++ rest)
    have htext : layout.accessors (.index i :: others) ++ rest =
        '[' :: ((toString i).toList ++ ']' :: (layout.accessors others ++ rest)) := by
      simp [Layout.accessors, Layout.accessor]
    rw [htext]
    exact reads_open_iff.2 ⟨_, _, _, hindex, hothers, rfl⟩
  | .call method args :: others =>
    have hothers := reads_accessors others h.2 hrest
    have hargs := reads_written_arguments args h.1 (layout.accessors others ++ rest)
    have htext : layout.accessors (.call method args :: others) ++ rest =
        '.' :: (method.name.toList ++
          '(' :: (layout.arguments args ++ ')' :: (layout.accessors others ++ rest))) := by
      simp [Layout.accessors, Layout.accessor]
    rw [htext]
    exact reads_call_accessors hargs hothers
termination_by sizeOf accessors

/-- The written arguments of a call read back with its closing parenthesis. -/
theorem reads_written_arguments (args : List Operand) (h : OperandsPrintable args)
    (rest : List Char) :
    Reads (readArguments (layout.arguments args ++ ')' :: rest)) args rest := by
  match args with
  | [] => exact reads_arguments_iff.2 (.inl ⟨skipBlank_cons (by decide) rest, rfl⟩)
  | first :: others =>
    have htext : layout.arguments (first :: others) ++ ')' :: rest =
        layout.operand first ++ (layout.furtherArguments others ++ ')' :: rest) := by
      simp [Layout.arguments]
    have hskip := skipBlank_operand layout h.1 (layout.furtherArguments others ++ ')' :: rest)
    have hlist := reads_argument_list first others h.1 h.2 rest hskip
    obtain ⟨c, behind, hfirst, hstart⟩ := layout.operand_cons h.1
    rw [htext, reads_arguments_iff, hskip]
    refine .inr ⟨fun after hclose => ?_, hlist⟩
    rw [hfirst, List.cons_append] at hclose
    exact hstart.closing (List.cons.inj hclose).1
termination_by sizeOf args

theorem reads_argument_list (first : Operand) (others : List Operand) (hfirst : first.Printable)
    (hothers : OperandsPrintable others) {cs : List Char} (rest : List Char)
    (hcs : skipBlank cs =
      layout.operand first ++ (layout.furtherArguments others ++ ')' :: rest)) :
    Reads (readArgumentList cs) (first :: others) rest := by
  match others with
  | [] =>
    have hstop : Stops isOperandChar (')' :: rest) := .of_cons (by decide) rest
    exact reads_last_argument (reads_operand first hfirst hcs hstop)
  | second :: others =>
    have htext : layout.furtherArguments (second :: others) ++ ')' :: rest =
        ',' :: (layout.gap ++ (layout.operand second ++
          (layout.furtherArguments others ++ ')' :: rest))) := by
      simp [Layout.furtherArguments]
    rw [htext] at hcs
    have hread := reads_operand first hfirst hcs (.of_cons (by decide) _)
    have hskip : skipBlank (layout.gap ++ (layout.operand second ++
        (layout.furtherArguments others ++ ')' :: rest))) =
        layout.operand second ++ (layout.furtherArguments others ++ ')' :: rest) := by
      rw [skipBlank_gap, skipBlank_operand layout hothers.1]
    have hlist := reads_argument_list second others hothers.1 hothers.2 rest hskip
    exact reads_next_argument hread hlist
termination_by sizeOf first + sizeOf others
end

end TrackerTraffic.Path
