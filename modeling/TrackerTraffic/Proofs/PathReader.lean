import TrackerTraffic.Proofs.PathPrinter

/-!
# Reading the words of paths

What the readers of strings, integers, bases and accessors do at a written word:
each takes the word and leaves what follows, provided that what follows does not
go on with the word.
-/

namespace TrackerTraffic.Path

/-! ### Readings -/

/-- The reading succeeds with the value and leaves the text. -/
def Reads {α : Type} {limit : Nat} (reading : Reading α limit) (value : α) (rest : List Char) :
    Prop :=
  ∃ shorter, reading = .ok ⟨value, rest, shorter⟩

theorem Reads.bind {α β : Type} {limit limit' : Nat} {reading : Reading α limit}
    {next : Taken α limit → Reading β limit'} {value : α} {value' : β} {rest rest' : List Char}
    (h : Reads reading value rest)
    (hnext : ∀ shorter, Reads (next ⟨value, rest, shorter⟩) value' rest') :
    Reads (reading >>= next) value' rest' := by
  obtain ⟨shorter, rfl⟩ := h
  exact hnext shorter

theorem Reads.of_bind {α β : Type} {limit limit' : Nat} {reading : Reading α limit}
    {next : Taken α limit → Reading β limit'} {value : β} {rest : List Char}
    (h : Reads (reading >>= next) value rest) :
    ∃ first after shorter, Reads reading first after ∧
      Reads (next ⟨first, after, shorter⟩) value rest := by
  cases reading with
  | error e =>
    obtain ⟨_, herror⟩ := h
    cases herror
  | ok taken => exact ⟨taken.value, taken.rest, taken.shorter, ⟨_, rfl⟩, h⟩

theorem Reads.of_pure {α : Type} {limit : Nat} {taken : Taken α limit} {value : α}
    {rest : List Char} (h : Reads (pure taken) value rest) :
    taken.value = value ∧ taken.rest = rest := by
  obtain ⟨_, heq⟩ := h
  obtain rfl := Except.ok.inj heq
  exact ⟨rfl, rfl⟩

theorem not_reads_stuck {α : Type} {limit : Nat} {cs rest : List Char} {reason : String}
    {value : α} : ¬ Reads (stuck cs reason : Reading α limit) value rest := by
  rintro ⟨_, herror⟩
  cases herror

theorem Reads.unique {α : Type} {limit : Nat} {reading : Reading α limit} {a b : α}
    {rest rest' : List Char} (h : Reads reading a rest) (h' : Reads reading b rest') :
    a = b ∧ rest = rest' := by
  obtain ⟨_, heq⟩ := h
  obtain ⟨_, heq'⟩ := h'
  obtain ⟨rfl, rfl⟩ := Taken.mk.inj (Except.ok.inj (heq.symm.trans heq'))
  exact ⟨rfl, rfl⟩

theorem Reads.shorter {α : Type} {limit : Nat} {rest : List Char} {reading : Reading α limit}
    {value : α} (h : Reads reading value rest) : rest.length < limit :=
  h.1

theorem Reads.ne_nil {α : Type} {cs rest : List Char} {reading : Reading α cs.length} {value : α}
    (h : Reads reading value rest) : cs ≠ [] := by
  obtain ⟨shorter, -⟩ := h
  exact List.ne_nil_of_length_pos (Nat.zero_lt_of_lt shorter)

/-- A reader that may take nothing leaves nothing only if there is nothing or it takes all. -/
theorem Reads.ne_nil_of_rest {α : Type} {cs rest : List Char} {reading : Reading α (cs.length + 1)}
    {value : α} (h : Reads reading value rest) (hrest : rest ≠ []) : cs ≠ [] := by
  obtain ⟨shorter, -⟩ := h
  have hlength := List.length_pos_iff.2 hrest
  exact List.ne_nil_of_length_pos (by omega)

/-- The text does not start with a character that has the property. -/
def Stops (p : Char → Bool) (rest : List Char) : Prop := ∀ c, rest.head? = some c → p c = false

theorem Stops.of_cons {p : Char → Bool} {c : Char} (h : p c = false) (rest : List Char) :
    Stops p (c :: rest) := by
  intro d hd
  rw [List.head?_cons, Option.some.injEq] at hd
  rw [← hd]
  exact h

theorem takeRun_append {p : Char → Bool} {run rest : List Char} (hrun : ∀ c ∈ run, p c = true)
    (hrest : Stops p rest) : takeRun p (run ++ rest) = (run, rest) := by
  rw [takeRun, List.takeWhile_append_of_pos hrun, List.dropWhile_append_of_pos hrun]
  cases rest with
  | nil => simp
  | cons c rest =>
    have hc := hrest c rfl
    simp [hc]

theorem skipBlank_cons {c : Char} (h : Text.isBlank c = false) (rest : List Char) :
    skipBlank (c :: rest) = c :: rest := by
  simp [skipBlank, h]

theorem length_lt_of_skipBlank {c : Char} {cs rest : List Char} (h : skipBlank cs = c :: rest) :
    rest.length < cs.length := by
  have hlength := skipBlank_length cs
  rw [h, List.length_cons] at hlength
  exact hlength

theorem ne_nil_of_skipBlank {cs : List Char} (h : skipBlank cs ≠ []) : cs ≠ [] := by
  rintro rfl
  exact h rfl

theorem skipBlank_gap (layout : Layout) (rest : List Char) :
    skipBlank (layout.gap ++ rest) = skipBlank rest := by
  have hblank : ∀ c ∈ layout.gap, Text.isBlank c = true := by
    intro c hc
    rw [List.eq_of_mem_replicate hc]
    decide
  exact List.dropWhile_append_of_pos hblank

theorem reads_expect (c : Char) (rest : List Char) : Reads (expect c (c :: rest)) () rest := by
  rw [expect, if_pos rfl]
  exact ⟨_, rfl⟩

theorem reads_expectNext {c : Char} {cs rest : List Char} (h : skipBlank cs = c :: rest) :
    Reads (expectNext c cs) () rest := by
  have hexpect : Reads (expect c (skipBlank cs)) () rest := by
    rw [h]
    exact reads_expect c rest
  exact hexpect.bind fun _ => ⟨_, rfl⟩

theorem reads_expect_spec {c : Char} {cs after : List Char} (h : Reads (expect c cs) () after) :
    cs = c :: after := by
  obtain ⟨_, heq⟩ := h
  cases cs with
  | nil => cases heq
  | cons d rest =>
    rw [expect] at heq
    split at heq
    · rename_i hd
      obtain ⟨-, rfl⟩ := Taken.mk.inj (Except.ok.inj heq)
      rw [hd]
    · cases heq

theorem reads_expectNext_spec {c : Char} {cs after : List Char}
    (h : Reads (expectNext c cs) () after) : skipBlank cs = c :: after := by
  obtain ⟨_, behind, _, hexpect, hpure⟩ := Reads.of_bind h
  obtain ⟨-, rfl⟩ := hpure.of_pure
  exact reads_expect_spec hexpect

/-! ### Strings -/

theorem reads_stringTail (text rest : List Char) :
    Reads (readStringTail '\'' (text.flatMap escape ++ '\'' :: rest)) text rest := by
  induction text with
  | nil =>
    rw [List.flatMap_nil, List.nil_append, readStringTail.eq_def]
    exact ⟨_, if_pos rfl⟩
  | cons c text ih =>
    by_cases hspecial : c = '\\' ∨ c = '\''
    · have hescape : (c :: text).flatMap escape ++ '\'' :: rest =
          '\\' :: c :: (text.flatMap escape ++ '\'' :: rest) := by
        simp [escape, hspecial]
      have hletter : unescape c = c := by
        rcases hspecial with rfl | rfl <;> rfl
      rw [hescape, readStringTail.eq_def]
      simp only [Char.reduceEq, if_false, if_true]
      refine ih.bind fun _ => ?_
      rw [hletter]
      exact ⟨_, rfl⟩
    · have hescape : (c :: text).flatMap escape ++ '\'' :: rest =
          c :: (text.flatMap escape ++ '\'' :: rest) := by
        simp [escape, hspecial]
      obtain ⟨hslash, hquote⟩ := not_or.1 hspecial
      rw [hescape, readStringTail.eq_def]
      simp only [if_neg hslash, if_neg hquote]
      exact ih.bind fun _ => ⟨_, rfl⟩

theorem quoted_append (text : String) (rest : List Char) :
    quoted text ++ rest = '\'' :: (text.toList.flatMap escape ++ '\'' :: rest) := by
  simp [quoted]

theorem reads_string (text : String) (rest : List Char) :
    Reads (readString '\'' (text.toList.flatMap escape ++ '\'' :: rest)) text rest := by
  refine (reads_stringTail text.toList rest).bind fun _ => ?_
  simp only [String.ofList_toList]
  exact ⟨_, rfl⟩

/-! ### Integers -/

/-- The text has the form of an integer: a sign or a digit, and digits behind it. -/
def IsIntegerText (text : List Char) : Prop :=
  ∃ c digits, text = c :: digits ∧ (c = '-' ∨ c.isDigit = true) ∧ ∀ d ∈ digits, d.isDigit = true

theorem isIntegerText_toString (i : Int) : IsIntegerText (toString i).toList := by
  rw [Text.int_toString_toList]
  split
  · obtain ⟨c, digits, hcons⟩ :=
      List.exists_cons_of_ne_nil (Text.toString_toList_ne_nil i.toNat)
    have hdigits : ∀ d ∈ c :: digits, d.isDigit = true := by
      intro d hd
      rw [← hcons] at hd
      exact Text.isDigit_of_mem_toString hd
    exact ⟨c, digits, hcons, .inr (hdigits c List.mem_cons_self),
      fun d hd => hdigits d (List.mem_cons_of_mem _ hd)⟩
  · exact ⟨'-', _, rfl, .inl rfl, fun d hd => Text.isDigit_of_mem_toString hd⟩

theorem integerStart_ne {c d : Char} (hc : c = '-' ∨ c.isDigit = true) (hminus : d ≠ '-')
    (hdigit : d.isDigit = false) : c ≠ d := by
  rintro rfl
  rcases hc with rfl | hc
  · exact hminus rfl
  · exact absurd (hc.symm.trans hdigit) (by decide)

theorem integerStart_not_quote {c : Char} (hc : c = '-' ∨ c.isDigit = true) :
    ¬(c = '\'' || c = '"') = true := by
  have hsingle : c ≠ '\'' := integerStart_ne hc (by decide) (by decide)
  have hdouble : c ≠ '"' := integerStart_ne hc (by decide) (by decide)
  simp [hsingle, hdouble]

theorem splitInteger_of_isIntegerText {text rest : List Char} (h : IsIntegerText text)
    (hrest : Stops Char.isDigit rest) : splitInteger (text ++ rest) = (text, rest) := by
  obtain ⟨c, digits, rfl, hc, hdigits⟩ := h
  have hrun := takeRun_append hdigits hrest
  rw [List.cons_append]
  rcases hc with rfl | hc
  · simp only [splitInteger, hrun]
  · have hall : ∀ d ∈ c :: digits, d.isDigit = true := List.forall_mem_cons.2 ⟨hc, hdigits⟩
    have hminus : c ≠ '-' := by
      rintro rfl
      exact absurd hc (by decide)
    have hwhole := takeRun_append hall hrest
    unfold splitInteger
    split
    · rename_i heq
      exact absurd (List.cons.inj heq).1 hminus
    · exact hwhole

theorem reads_index {text : List Char} {i : Int} (h : IsIntegerText text)
    (hvalue : Text.signed? text = some i) {rest : List Char} (hrest : Stops Char.isDigit rest) :
    Reads (readIndex (text ++ rest)) i rest := by
  have hsplit := splitInteger_of_isIntegerText h hrest
  have hread : Text.signed? (splitInteger (text ++ rest)).1 = some i := by rw [hsplit, hvalue]
  unfold readIndex
  split
  · rename_i n hn
    have heq : n = i := Option.some.inj (hn.symm.trans hread)
    have hbehind : (splitInteger (text ++ rest)).2 = rest := by rw [hsplit]
    simp only [heq, hbehind]
    exact ⟨_, rfl⟩
  · rename_i hnone
    rw [hread] at hnone
    exact absurd hnone (by simp)

theorem reads_number {i : Int} (h : Fits i) {c : Char} {digits : List Char}
    (htext : (toString i).toList = c :: digits) (hdigits : ∀ d ∈ digits, d.isDigit = true)
    {rest : List Char} (hrest : Stops isNumberChar rest) :
    Reads (readNumber c (digits ++ rest)) (.number (.integer i)) rest := by
  have hchars : ∀ d ∈ digits, isNumberChar d = true := by
    intro d hd
    simp [isNumberChar, hdigits d hd]
  have hrun := takeRun_append hchars hrest
  have hvalue : numberValue? (c :: digits) = some (.number (.integer i)) := by
    rw [← htext, numberValue?, Text.signed?_toString h.1 h.2]
  simp only [readNumber, hrun, hvalue]
  exact ⟨_, rfl⟩

theorem reads_name {name rest : List Char} (hne : name ≠ [])
    (hname : ∀ c ∈ name, isNameChar c = true) (hrest : Stops isNameChar rest) :
    Reads (readName (name ++ rest)) (String.ofList name) rest := by
  have hrun := takeRun_append hname hrest
  have hnonempty : ¬(takeRun isNameChar (name ++ rest)).1 = [] := by rwa [hrun]
  rw [readName, dif_neg hnonempty]
  simp only [hrun]
  exact ⟨_, rfl⟩

/-! ### Bases -/

theorem isAlphabetic_of_isAlpha {c : Char} (h : c.isAlpha = true) : Text.isAlphabetic c = true := by
  have hascii : c.toNat < 128 := by
    simp only [Char.isAlpha, Char.isUpper, Char.isLower, Bool.or_eq_true, decide_eq_true_eq,
      Bool.and_eq_true, ge_iff_le, UInt32.le_iff_toNat_le] at h
    show c.val.toNat < 128
    rcases h with ⟨-, h⟩ | ⟨-, h⟩
    · exact Nat.lt_of_le_of_lt h (by decide)
    · exact Nat.lt_of_le_of_lt h (by decide)
  rw [Text.isAlphabetic, if_pos hascii, h]

theorem isIdentChar_of_isAlpha {c : Char} (h : c.isAlpha = true) : isIdentChar c = true := by
  simp only [isIdentChar, Text.isAlphanumeric, isAlphabetic_of_isAlpha h, Bool.true_or]

theorem isDigit_of_isAlpha {c : Char} (h : c.isAlpha = true) : c.isDigit = false := by
  simp only [Char.isAlpha, Char.isUpper, Char.isLower, Bool.or_eq_true, decide_eq_true_eq,
    Bool.and_eq_true, ge_iff_le] at h
  simp only [Char.isDigit, Bool.and_eq_false_iff, decide_eq_false_iff_not, ge_iff_le]
  have hlarge : ¬c.val ≤ 57 := by
    rcases h with ⟨h, -⟩ | ⟨h, -⟩
    · exact fun hle => absurd (UInt32.le_trans h hle) (by decide)
    · exact fun hle => absurd (UInt32.le_trans h hle) (by decide)
  exact .inr hlarge

theorem reads_ident {name : String} {base : Base} (hne : name.toList ≠ [])
    (hletters : name.toList.all Char.isAlpha = true) (hbase : identBase? name = some base)
    {rest : List Char} (hrest : Stops isIdentChar rest) :
    Reads (readBase (name.toList ++ rest)) base rest := by
  obtain ⟨c, letters, hname⟩ := List.exists_cons_of_ne_nil hne
  have hstring : String.ofList (c :: letters) = name := by rw [← hname, String.ofList_toList]
  have hletters := List.all_eq_true.1 hletters
  rw [hname] at hletters ⊢
  have hrun : takeRun isIdentChar (letters ++ rest) = (letters, rest) :=
    takeRun_append (fun d hd => isIdentChar_of_isAlpha (hletters d (List.mem_cons_of_mem _ hd)))
      hrest
  have hc := hletters c List.mem_cons_self
  have hother : ∀ d : Char, d.isAlpha = false → c ≠ d := by
    rintro d hd rfl
    exact absurd (hc.symm.trans hd) (by decide)
  have hletter : Text.isAlphabetic c = true := isAlphabetic_of_isAlpha hc
  have hquote : ¬(c = '\'' || c = '"') = true := by
    simp [hother '\'' (by decide), hother '"' (by decide)]
  have hnumber : ¬(c = '-' || c.isDigit) = true := by
    have hdigit : c.isDigit = false := isDigit_of_isAlpha hc
    simp [hother '-' (by decide), hdigit]
  simp only [List.cons_append, readBase, if_neg (hother '@' (by decide)), if_neg hquote,
    if_neg (hother '/' (by decide)), if_neg hnumber, if_pos hletter, hrun, hstring, hbase]
  exact ⟨_, rfl⟩

theorem not_isPrefixOf_keyName {rest : List Char} (hrest : Stops isIdentChar rest) :
    keyName.isPrefixOf rest = false := by
  have hkey : keyName = 'p' :: "roperty".toList := rfl
  have hletter : isIdentChar 'p' = true := isIdentChar_of_isAlpha rfl
  cases rest with
  | nil => rfl
  | cons c rest =>
    have hne : ('p' == c) = false := by
      rw [beq_eq_false_iff_ne]
      intro heq
      rw [heq, hrest c rfl] at hletter
      exact absurd hletter (by decide)
    rw [hkey, List.isPrefixOf_cons_cons, hne, Bool.false_and]

theorem reads_literal_string (text : String) (rest : List Char) :
    Reads (readBase (quoted text ++ rest)) (.literal (.string text)) rest := by
  have hstring := reads_string text rest
  rw [quoted_append, readBase]
  exact hstring.bind fun _ => ⟨_, rfl⟩

theorem reads_literal_integer {i : Int} (h : Fits i) {rest : List Char}
    (hrest : Stops isNumberChar rest) :
    Reads (readBase ((toString i).toList ++ rest)) (.literal (.number (.integer i))) rest := by
  obtain ⟨c, digits, htext, hc, hdigits⟩ := isIntegerText_toString i
  have hread := reads_number h htext hdigits hrest
  have hat : c ≠ '@' := integerStart_ne hc (by decide) (by decide)
  have hslash : c ≠ '/' := integerStart_ne hc (by decide) (by decide)
  have hstart : (c = '-' || c.isDigit) = true := by simpa using hc
  rw [htext, List.cons_append]
  simp only [readBase, if_neg hat, if_neg (integerStart_not_quote hc), if_neg hslash,
    if_pos hstart]
  exact hread.bind fun _ => ⟨_, rfl⟩

/-- A written base reads as the base in front of a text that goes on with neither its letters
nor, if it is a number, its digits. -/
theorem reads_base {base : Base} (h : base.Printable) {rest : List Char}
    (hrest : Stops isIdentChar rest) (hnumber : base.isNumber = true → Stops isNumberChar rest) :
    Reads (readBase (base.text ++ rest)) base rest := by
  cases base with
  | current =>
    have hkey : ¬keyName.isPrefixOf rest = true := by simp [not_isPrefixOf_keyName hrest]
    have htext : Base.current.text ++ rest = '@' :: rest := rfl
    rw [htext, readBase, if_pos rfl, if_neg hkey]
    exact ⟨_, rfl⟩
  | key =>
    have hkey : keyName.isPrefixOf (keyName ++ rest) = true := by
      rw [List.isPrefixOf_iff_prefix]
      exact List.prefix_append _ _
    have htext : Base.key.text ++ rest = '@' :: (keyName ++ rest) := rfl
    have hdrop : (keyName ++ rest).drop keyName.length = rest := List.drop_left
    rw [htext, readBase, if_pos rfl, if_pos hkey]
    simp only [hdrop]
    exact ⟨_, rfl⟩
  | undefined =>
    have hread : Reads (readBase ("undefined".toList ++ rest)) .undefined rest :=
      reads_ident (by decide) (by decide) rfl hrest
    exact hread
  | pattern p => exact absurd h id
  | literal value =>
    cases value with
    | null => exact reads_ident (by decide) (by decide) rfl hrest
    | bool b =>
      cases b with
      | true => exact reads_ident (by decide) (by decide) rfl hrest
      | false => exact reads_ident (by decide) (by decide) rfl hrest
    | string text => exact reads_literal_string text rest
    | number n =>
      cases n with
      | integer i => exact reads_literal_integer h (hnumber rfl)
      | float x => exact absurd h id
    | array items => exact absurd h id
    | object members => exact absurd h id

/-! ### Accessors in brackets -/

theorem skipBlank_quoted (text : String) (rest : List Char) :
    skipBlank (quoted text ++ rest) = '\'' :: (text.toList.flatMap escape ++ '\'' :: rest) := by
  rw [quoted_append]
  exact skipBlank_cons (by decide) _

theorem isBlank_of_isDigit {c : Char} (h : c.isDigit = true) : Text.isBlank c = false := by
  simp only [Char.isDigit, Bool.and_eq_true, decide_eq_true_eq, ge_iff_le,
    UInt32.le_iff_toNat_le] at h
  obtain ⟨hlow, hhigh⟩ := h
  have hlow : 48 ≤ c.toNat := hlow
  have hhigh : c.toNat ≤ 57 := hhigh
  simp only [Text.isBlank, Bool.or_eq_false_iff, Bool.and_eq_false_iff, beq_eq_false_iff_ne,
    decide_eq_false_iff_not]
  omega

theorem skipBlank_of_isIntegerText {text : List Char} (h : IsIntegerText text)
    (rest : List Char) : skipBlank (text ++ rest) = text ++ rest := by
  obtain ⟨c, digits, rfl, hc, -⟩ := h
  rcases hc with rfl | hc
  · exact skipBlank_cons (by decide) _
  · exact skipBlank_cons (isBlank_of_isDigit hc) _

theorem reads_bracketed_member (name : String) (rest : List Char) :
    Reads (readBracketAccessor (quoted name ++ ']' :: rest)) (.member name) rest := by
  have hname : Reads (readAccessor (skipBlank (quoted name ++ ']' :: rest))) (.member name)
      (']' :: rest) := by
    rw [skipBlank_quoted, readAccessor]
    exact (reads_string name _).bind fun _ => ⟨_, rfl⟩
  have hclose : Reads (expectNext ']' (']' :: rest)) () rest :=
    reads_expectNext (skipBlank_cons (by decide) rest)
  exact hname.bind fun _ => hclose.bind fun _ => ⟨_, rfl⟩

theorem reads_bracketed_index {text : List Char} {i : Int} (h : IsIntegerText text)
    (hvalue : Text.signed? text = some i) (rest : List Char) :
    Reads (readBracketAccessor (text ++ ']' :: rest)) (.index i) rest := by
  have hstop : Stops Char.isDigit (']' :: rest) := .of_cons (by decide) rest
  have hindex := reads_index h hvalue hstop
  have hread : Reads (readAccessor (skipBlank (text ++ ']' :: rest))) (.index i)
      (']' :: rest) := by
    rw [skipBlank_of_isIntegerText h]
    obtain ⟨c, digits, rfl, hc, -⟩ := h
    rw [List.cons_append] at hindex ⊢
    rw [readAccessor, if_neg (integerStart_not_quote hc)]
    exact hindex.bind fun _ => ⟨_, rfl⟩
  have hclose : Reads (expectNext ']' (']' :: rest)) () rest :=
    reads_expectNext (skipBlank_cons (by decide) rest)
  exact hread.bind fun _ => hclose.bind fun _ => ⟨_, rfl⟩

end TrackerTraffic.Path
