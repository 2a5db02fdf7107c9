import TrackerTraffic.Proofs.TargetText

/-!
# Agreement of targets and paths

Reading back the one value of a chain of objects takes a segment for each key,
and of its name.  So every step of a text that reads back is plain: in any other
step the reader of paths drops a sign that stays in the target's piece.
-/

namespace TrackerTraffic

namespace Path

/-! ### What was read -/

theorem reads_segment_cases {cs after : List Char} {segment : Segment}
    (h : Reads (readSegment cs) segment after) :
    (∃ rest, cs = '.' :: '.' :: rest) ∨ (∃ rest, cs = '.' :: '*' :: rest) ∨
      (∃ name rest, cs = '.' :: rest ∧ Reads (readName rest) name after ∧
        segment = .child name) ∨
      ∃ rest, cs = '[' :: rest ∧ Reads (readBracket rest) segment after := by
  rw [readSegment.eq_def] at h
  split at h
  · exact .inl ⟨_, rfl⟩
  · exact .inr (.inl ⟨_, rfl⟩)
  · obtain ⟨name, behind, _, hname, hpure⟩ := h.of_bind
    obtain ⟨rfl, rfl⟩ := hpure.of_pure
    exact .inr (.inr (.inl ⟨name, _, rfl, hname, rfl⟩))
  · obtain ⟨inner, behind, _, hbracket, hpure⟩ := h.of_bind
    obtain ⟨rfl, rfl⟩ := hpure.of_pure
    exact .inr (.inr (.inr ⟨_, rfl, hbracket⟩))
  · exact absurd h not_reads_stuck

theorem readSegments_cons {c : Char} {rest : List Char} {segments : List Segment}
    (h : readSegments (c :: rest) = .ok segments) :
    ∃ segment after others, Reads (readSegment (c :: rest)) segment after ∧
      after.length < (c :: rest).length ∧ readSegments after = .ok others ∧
        segments = segment :: others := by
  rw [readSegments] at h
  cases hread : readSegment (c :: rest) with
  | error e =>
    rw [hread] at h
    cases h
  | ok taken =>
    rw [hread] at h
    have hothers : (readSegments taken.rest >>= fun others =>
        .ok (taken.value :: others)) = Except.ok segments := h
    cases hrest : readSegments taken.rest with
    | error e =>
      rw [hrest] at hothers
      cases hothers
    | ok others =>
      rw [hrest] at hothers
      exact ⟨taken.value, taken.rest, others, ⟨_, rfl⟩, taken.shorter, hrest,
        (Except.ok.inj hothers).symm⟩

theorem stops_of_readSegments {cs : List Char} {segments : List Segment}
    (h : readSegments cs = .ok segments) : Stops isNameChar cs := by
  cases cs with
  | nil =>
    intro c hc
    exact absurd hc (by simp)
  | cons c rest =>
    obtain ⟨segment, after, others, hread, -⟩ := readSegments_cons h
    rcases reads_segment_cases hread with ⟨_, h⟩ | ⟨_, h⟩ | ⟨_, _, h, -⟩ | ⟨_, h, -⟩
    all_goals
      rw [h]
      exact .of_cons (by decide) _

theorem reads_name_spec {cs after : List Char} {name : String}
    (h : Reads (readName cs) name after) :
    cs = name.toList ++ after ∧ name.toList ≠ [] ∧ (∀ c ∈ name.toList, isNameChar c = true) := by
  unfold readName at h
  split at h
  · exact absurd h not_reads_stuck
  · rename_i hne
    obtain ⟨_, heq⟩ := h
    obtain ⟨rfl, rfl⟩ := Taken.mk.inj (Except.ok.inj heq)
    rw [String.toList_ofList]
    exact ⟨List.takeWhile_append_dropWhile.symm, hne,
      fun c hc => List.all_eq_true.1 List.all_takeWhile c hc⟩

theorem reads_bracket_spec {cs after : List Char} {segment : Segment}
    (h : Reads (readBracket cs) segment after) :
    ∃ behind, Reads (readBracketContent (skipBlank cs)) segment behind ∧
      skipBlank behind = ']' :: after := by
  obtain ⟨content, behind, _, hcontent, hrest⟩ := Reads.of_bind h
  obtain ⟨_, last, _, hclose, hpure⟩ := Reads.of_bind hrest
  obtain ⟨rfl, rfl⟩ := hpure.of_pure
  exact ⟨behind, hcontent, reads_expectNext_spec hclose⟩

theorem reads_index_spec {cs after : List Char} {i : Int} (h : Reads (readIndex cs) i after) :
    ∃ text, cs = text ++ after ∧ Text.signed? text = some i := by
  unfold readIndex at h
  split at h
  · rename_i n hn
    obtain ⟨_, heq⟩ := h
    obtain ⟨rfl, rfl⟩ := Taken.mk.inj (Except.ok.inj heq)
    exact ⟨_, (splitInteger_append cs).symm, hn⟩
  · exact absurd h not_reads_stuck

/-- What stands in brackets: a sign of wildcards and filters, a string or an integer. -/
theorem reads_content_cases {cs after : List Char} {segment : Segment}
    (h : Reads (readBracketContent cs) segment after) :
    ∃ c rest, cs = c :: rest ∧ ((c = '*' ∨ c = '?') ∨
      (∃ name, (c = '\'' ∨ c = '"') ∧ Reads (readString c rest) name after ∧
        segment = .child name) ∨
      ∃ i, (c = '-' ∨ c.isDigit = true) ∧ Reads (readIndex (c :: rest)) i after ∧
        segment = .index i) := by
  cases cs with
  | nil =>
    exact absurd h not_reads_stuck
  | cons c rest =>
    refine ⟨c, rest, rfl, ?_⟩
    rw [readBracketContent] at h
    split at h
    · rename_i hc
      exact .inl (.inl hc)
    · split at h
      · rename_i hc
        exact .inl (.inr hc)
      · split at h
        · rename_i hc
          obtain ⟨name, behind, _, hname, hpure⟩ := h.of_bind
          obtain ⟨rfl, rfl⟩ := hpure.of_pure
          exact .inr (.inl ⟨name, by simpa using hc, hname, rfl⟩)
        · split at h
          · rename_i hc
            obtain ⟨i, behind, _, hindex, hpure⟩ := h.of_bind
            obtain ⟨rfl, rfl⟩ := hpure.of_pure
            exact .inr (.inr ⟨i, by simpa using hc, hindex, rfl⟩)
          · exact absurd h not_reads_stuck

end Path

namespace Target

/-! ### Strings -/

theorem isPieceChar_of_unescape {c : Char} (h : isPieceChar (Path.unescape c) = true) :
    isPieceChar c = true := by
  unfold Path.unescape at h
  split at h
  · decide
  · decide
  · decide
  · exact h

/-- A string without signs is shorter than the piece of its text, which keeps the quote. -/
theorem length_lt_firstPiece {quote : Char} (hquote : isPieceChar quote = true) {cs : List Char}
    {text after : List Char} (h : Path.Reads (Path.readStringTail quote cs) text after)
    (htext : ∀ c ∈ text, isPieceChar c = true) : text.length < (firstPiece cs).length := by
  induction cs using Path.readStringTail.induct quote generalizing text after with
  | case1 =>
    exact absurd h Path.not_reads_stuck
  | case2 rest =>
    rw [Path.readStringTail.eq_def] at h
    obtain ⟨_, heq⟩ := h
    simp only [if_true] at heq
    obtain ⟨rfl, -⟩ := Path.Taken.mk.inj (Except.ok.inj heq)
    rw [firstPiece_cons hquote]
    exact Nat.succ_pos _
  | case3 hslash =>
    rw [Path.readStringTail.eq_def] at h
    obtain ⟨_, herror⟩ := h
    simp only [if_neg hslash, if_true] at herror
    cases herror
  | case4 e rest hslash ih =>
    rw [Path.readStringTail.eq_def] at h
    simp only [if_neg hslash, if_true] at h
    obtain ⟨inner, behind, _, hinner, hpure⟩ := h.of_bind
    obtain ⟨rfl, rfl⟩ := hpure.of_pure
    have he := isPieceChar_of_unescape (htext _ List.mem_cons_self)
    have hlength := ih hinner fun c hc => htext c (List.mem_cons_of_mem _ hc)
    rw [firstPiece_cons (by decide), firstPiece_cons he]
    simp only [List.length_cons]
    omega
  | case5 c rest hquoted hslash ih =>
    rw [Path.readStringTail.eq_def] at h
    simp only [if_neg hquoted, if_neg hslash] at h
    obtain ⟨inner, behind, _, hinner, hpure⟩ := h.of_bind
    obtain ⟨rfl, rfl⟩ := hpure.of_pure
    have hc := htext c List.mem_cons_self
    have hlength := ih hinner fun d hd => htext d (List.mem_cons_of_mem _ hd)
    rw [firstPiece_cons hc]
    simp only [List.length_cons]
    omega

/-! ### Blanks -/

theorem isPieceChar_of_isBlank {c : Char} (h : Text.isBlank c = true) : isPieceChar c = true := by
  rw [isPieceChar_iff]
  refine ⟨?_, ?_, ?_⟩
  · rintro rfl
    exact absurd h (by decide)
  · rintro rfl
    exact absurd h (by decide)
  · rintro rfl
    exact absurd h (by decide)

theorem exists_blanks (cs : List Char) :
    ∃ blanks, (∀ c ∈ blanks, Text.isBlank c = true) ∧ cs = blanks ++ Path.skipBlank cs :=
  ⟨cs.takeWhile Text.isBlank, fun c hc => List.all_eq_true.1 List.all_takeWhile c hc,
    List.takeWhile_append_dropWhile.symm⟩

/-- A string in brackets is no key's text: the piece keeps its quotes. -/
theorem string_ne_key {cs rest after : List Char} {quote : Char} {name : String} {key : Key}
    (hquote : quote = '\'' ∨ quote = '"') (hskip : Path.skipBlank cs = quote :: rest)
    (hread : Path.Reads (Path.readString quote rest) name after)
    (hkey : keyOf (firstPiece cs) = .ok key) : name ≠ key.text := by
  obtain ⟨text, behind, _, htail, hpure⟩ := Path.Reads.of_bind hread
  obtain ⟨rfl, -⟩ := hpure.of_pure
  have hpiece : isPieceChar quote = true := by rcases hquote with rfl | rfl <;> decide
  obtain ⟨blanks, hblanks, hcs⟩ := exists_blanks cs
  rw [hskip] at hcs
  have hfirst : firstPiece cs = blanks ++ quote :: firstPiece rest := by
    rw [hcs, firstPiece_append fun c hc => isPieceChar_of_isBlank (hblanks c hc),
      firstPiece_cons hpiece]
  have hdigits : ¬(firstPiece cs).all Char.isDigit = true := by
    intro hall
    rw [hfirst] at hall
    have hdigit := List.all_eq_true.1 hall quote (by simp)
    rcases hquote with rfl | rfl
    · exact absurd hdigit (by decide)
    · exact absurd hdigit (by decide)
  obtain ⟨-, ⟨n, -, hall, -⟩ | ⟨rfl, -⟩⟩ := keyOf_cases hkey
  · exact absurd hall hdigits
  · intro heq
    have htext : text = firstPiece cs := String.ofList_injective heq
    have hlength := length_lt_firstPiece hpiece htail fun c hc =>
      isPieceChar_of_mem_firstPiece (htext ▸ hc)
    rw [htext, hfirst] at hlength
    simp only [List.length_append, List.length_cons] at hlength
    omega

/-! ### Integers -/

theorem isPieceChar_of_signed? {text : List Char} {i : Int} (h : Text.signed? text = some i) :
    ∀ c ∈ text, isPieceChar c = true := by
  intro c hc
  rcases Text.mem_of_signed? h c hc with rfl | rfl | hdigit
  · decide
  · decide
  · exact isPieceChar_of_isDigit hdigit

/-- A text around which blanks can stand holds none itself if it holds none with them. -/
theorem eq_of_no_blanks {front text back : List Char} (hfront : ∀ c ∈ front, Text.isBlank c = true)
    (hback : ∀ c ∈ back, Text.isBlank c = true)
    (h : ∀ c ∈ front ++ text ++ back, Text.isBlank c = false) : front = [] ∧ back = [] := by
  constructor
  · refine List.eq_nil_iff_forall_not_mem.2 fun c hc => ?_
    have hblank := h c (by simp [hc])
    rw [hfront c hc] at hblank
    exact absurd hblank (by decide)
  · refine List.eq_nil_iff_forall_not_mem.2 fun c hc => ?_
    have hblank := h c (by simp [hc])
    rw [hback c hc] at hblank
    exact absurd hblank (by decide)

theorem isBlank_of_mem_toString {i : Int} {c : Char} (h : c ∈ (toString i).toList) :
    Text.isBlank c = false := by
  obtain ⟨d, digits, htext, hd, hdigits⟩ := Path.isIntegerText_toString i
  rw [htext] at h
  rcases List.mem_cons.1 h with rfl | h
  · rcases hd with rfl | hd
    · decide
    · exact Path.isBlank_of_isDigit hd
  · exact Path.isBlank_of_isDigit (hdigits c h)

/-- An integer in brackets that is the key's text stands there alone, and is plain. -/
theorem plain_of_index {cs behind after : List Char} {i : Int} {key : Key}
    (hread : Path.Reads (Path.readIndex (Path.skipBlank cs)) i behind)
    (hclose : Path.skipBlank behind = ']' :: after) (hafter : Path.Stops Path.isNameChar after)
    (hkey : keyOf (firstPiece cs) = .ok key) (htext : toString i = key.text) :
    ∃ index, (Step.bracketed index).IsPlain ∧ cs = index ++ ']' :: after := by
  obtain ⟨index, hindex, hvalue⟩ := Path.reads_index_spec hread
  obtain ⟨front, hfront, hcs⟩ := exists_blanks cs
  obtain ⟨back, hback, hbehind⟩ := exists_blanks behind
  rw [hclose] at hbehind
  have hwhole : cs = front ++ index ++ back ++ ']' :: after := by
    rw [hcs, hindex, hbehind]
    simp
  have hchars : ∀ c ∈ front ++ index ++ back, isPieceChar c = true := by
    intro c hc
    rcases List.mem_append.1 hc with hc | hc
    · rcases List.mem_append.1 hc with hc | hc
      · exact isPieceChar_of_isBlank (hfront c hc)
      · exact isPieceChar_of_signed? hvalue c hc
    · exact isPieceChar_of_isBlank (hback c hc)
  have hend : firstPiece (']' :: after) = [] := by
    have hstop := firstPiece_of_stops hafter
    rw [firstPiece] at hstop ⊢
    rw [List.takeWhile_cons_of_pos (by decide), List.filter_cons_of_neg (by decide), hstop]
  have hpiece : firstPiece cs = front ++ index ++ back := by
    rw [hwhole, firstPiece_append hchars, hend, List.append_nil]
  rw [hpiece] at hkey
  -- blanks would stay in the piece, where neither a position nor an integer's text has any
  have hform : (∀ c ∈ front ++ index ++ back, Text.isBlank c = false) ∧
      ((front ++ index ++ back).all Char.isDigit = true ∨
        front ++ index ++ back = (toString i).toList) := by
    obtain ⟨-, ⟨n, rfl, hall, -⟩ | ⟨rfl, -⟩⟩ := keyOf_cases hkey
    · exact ⟨fun c hc => Path.isBlank_of_isDigit (List.all_eq_true.1 hall c hc), .inl hall⟩
    · have hsame : front ++ index ++ back = (toString i).toList := by
        rw [htext, Key.text, String.toList_ofList]
      exact ⟨fun c hc => isBlank_of_mem_toString (hsame ▸ hc), .inr hsame⟩
  obtain ⟨rfl, rfl⟩ := eq_of_no_blanks hfront hback hform.1
  rw [List.nil_append, List.append_nil] at hform hwhole
  exact ⟨index, ⟨i, hvalue, hform.2⟩, hwhole⟩

/-! ### Names -/

/-- A name that is the key's text is plain. -/
theorem plain_of_name {cs after : List Char} {name : String} {key : Key}
    (hread : Path.Reads (Path.readName cs) name after) (hquery : ∀ c ∈ cs, isQuerySign c = false)
    (hafter : Path.Stops Path.isNameChar after) (hkey : keyOf (firstPiece cs) = .ok key)
    (htext : name = key.text) : (Step.dotted name.toList).IsPlain := by
  obtain ⟨hcs, hne, hchars⟩ := Path.reads_name_spec hread
  have hpiece : firstPiece cs = name.toList.filter (· != ']') := by
    have hrun := Path.takeRun_append hchars hafter
    rw [Path.takeRun, Prod.mk.injEq] at hrun
    rw [firstPiece, hcs, hrun.1]
  have hsign : ∀ c ∈ name.toList, isQuerySign c = false :=
    fun c hc => hquery c (by rw [hcs]; exact List.mem_append_left _ hc)
  obtain ⟨-, ⟨n, rfl, -, -, hn⟩ | ⟨rfl, hall⟩⟩ := keyOf_cases hkey
  · obtain rfl : name = toString n := htext
    refine ⟨hne, List.all_eq_true.2 fun c hc => ?_, fun _ => ⟨n, hn, rfl⟩⟩
    have hpiece := isPieceChar_of_isDigit (Text.isDigit_of_mem_toString hc)
    rw [isPlainChar, hpiece, hsign c hc]
    rfl
  · have hsame : name.toList = firstPiece cs := by
      rw [htext, Key.text, String.toList_ofList]
    refine ⟨hne, List.all_eq_true.2 fun c hc => ?_, fun hdigits => ?_⟩
    · have hpiece := isPieceChar_of_mem_firstPiece (hsame ▸ hc)
      rw [isPlainChar, hpiece, hsign c hc]
      rfl
    · rw [hsame] at hdigits
      exact absurd hdigits hall

/-! ### Steps -/

theorem mapM_keyOf_cons {piece : List Char} {pieces : List (List Char)} {keys : List Key}
    (h : (piece :: pieces).mapM keyOf = .ok keys) :
    ∃ key rest, keyOf piece = .ok key ∧ pieces.mapM keyOf = .ok rest ∧ keys = key :: rest := by
  rw [List.mapM_cons] at h
  cases hkey : keyOf piece with
  | error e =>
    rw [hkey] at h
    cases h
  | ok key =>
    rw [hkey] at h
    cases hrest : pieces.mapM keyOf with
    | error e =>
      rw [hrest] at h
      cases h
    | ok rest =>
      rw [hrest] at h
      exact ⟨key, rest, rfl, rfl, (Except.ok.inj h).symm⟩

theorem mem_of_mem_skipBlank {c : Char} {cs : List Char} (h : c ∈ Path.skipBlank cs) : c ∈ cs :=
  (List.dropWhile_sublist _).subset h

/-- A segment that was read has a name, and if that is the key's text, it was a plain step. -/
theorem exists_step {c : Char} {rest after : List Char} {segment : Path.Segment} {key : Key}
    (hread : Path.Reads (Path.readSegment (c :: rest)) segment after)
    (hafter : Path.Stops Path.isNameChar after)
    (hquery : ∀ d ∈ c :: rest, isQuerySign d = false)
    (hkey : keyOf (firstPiece rest) = .ok key) :
    ∃ name, segment.member? = some name ∧
      (name = key.text → ∃ step : Step, step.IsPlain ∧ c :: rest = step.text ++ after) := by
  rcases Path.reads_segment_cases hread with
    ⟨behind, heq⟩ | ⟨behind, heq⟩ | ⟨name, behind, heq, hname, rfl⟩ | ⟨behind, heq, hbracket⟩
  · -- two points enclose an empty piece
    obtain ⟨rfl, rfl⟩ := List.cons.inj heq
    exact absurd hkey (keyOf_nil key)
  · have hstar := hquery '*' (by rw [heq]; simp)
    exact absurd hstar (by decide)
  · obtain ⟨rfl, rfl⟩ := List.cons.inj heq
    refine ⟨name, rfl, fun htext => ⟨.dotted name.toList, ?_, ?_⟩⟩
    · exact plain_of_name hname (fun d hd => hquery d (List.mem_cons_of_mem _ hd)) hafter hkey htext
    · rw [(Path.reads_name_spec hname).1]
      rfl
  · obtain ⟨rfl, rfl⟩ := List.cons.inj heq
    obtain ⟨inner, hcontent, hclose⟩ := Path.reads_bracket_spec hbracket
    obtain ⟨d, content, hskip, hsign | ⟨name, hquote, hstring, rfl⟩ | ⟨i, -, hindex, rfl⟩⟩ :=
      Path.reads_content_cases hcontent
    · have hmem : d ∈ Path.skipBlank rest := by
        rw [hskip]
        exact List.mem_cons_self
      have hd := hquery d (List.mem_cons_of_mem _ (mem_of_mem_skipBlank hmem))
      rcases hsign with rfl | rfl
      · exact absurd hd (by decide)
      · exact absurd hd (by decide)
    · exact ⟨name, rfl, fun htext => absurd htext (string_ne_key hquote hskip hstring hkey)⟩
    · refine ⟨toString i, rfl, fun htext => ?_⟩
      rw [← hskip] at hindex
      obtain ⟨index, hplain, rfl⟩ := plain_of_index hindex hclose hafter hkey htext
      exact ⟨.bracketed index, hplain, by simp [Step.text]⟩

/-- Segments that find the one value of a chain were read from plain steps. -/
theorem exists_steps {cs : List Char} {segments : List Path.Segment} {keys : List Key}
    (hread : Path.readSegments cs = .ok segments) (hquery : ∀ c ∈ cs, isQuerySign c = false)
    (hkeys : (piecesBehind cs).mapM keyOf = .ok keys)
    (hfind : Path.selectAll segments [chain keys .null] = [.null]) :
    ∃ steps, (∀ step ∈ steps, step.IsPlain) ∧ cs = stepsText steps := by
  -- what stands behind the first step is shorter, and the same is known of it
  induction hn : cs.length using Nat.strongRecOn generalizing cs segments keys with
  | ind n ih =>
  cases cs with
  | nil => exact ⟨[], by simp, rfl⟩
  | cons c rest =>
    obtain ⟨segment, after, others, hsegment, hlength, hothers, rfl⟩ := Path.readSegments_cons hread
    have hafter := Path.stops_of_readSegments hothers
    have hpieces : piecesBehind (c :: rest) = _ := pieces_eq rest
    obtain ⟨key, later, hkey, -, rfl⟩ := mapM_keyOf_cons (hpieces ▸ hkeys)
    obtain ⟨name, hname, hstep⟩ := exists_step hsegment hafter hquery hkey
    obtain ⟨_, _, heq, htext, hfound⟩ := selectAll_chain hname hfind
    obtain ⟨rfl, rfl⟩ := List.cons.inj heq
    obtain ⟨step, hplain, hcs⟩ := hstep htext
    rw [hcs, Step.piecesBehind_append hplain hafter] at hkeys
    obtain ⟨_, _, -, hlater, heq⟩ := mapM_keyOf_cons hkeys
    obtain ⟨rfl, rfl⟩ := List.cons.inj heq
    have hqueryafter : ∀ d ∈ after, isQuerySign d = false :=
      fun d hd => hquery d (by rw [hcs]; exact List.mem_append_right _ hd)
    obtain ⟨steps, hsteps, hafter⟩ :=
      ih after.length (hn ▸ hlength) hothers hqueryafter hlater hfound rfl
    refine ⟨step :: steps, List.forall_mem_cons.2 ⟨hplain, hsteps⟩, ?_⟩
    rw [hcs, hafter, stepsText, stepsText, List.flatMap_cons]

end Target

end TrackerTraffic
