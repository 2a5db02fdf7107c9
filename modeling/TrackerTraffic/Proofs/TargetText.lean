import TrackerTraffic.Proofs.PathRoundTrip
import TrackerTraffic.Proofs.TargetWalk

/-!
# Plain paths

The texts that mean the same place as a write target and as a read path: a root
sign or nothing, names behind points and integers in brackets.  A target cuts the
text into pieces at its points and opening brackets, whatever stands between; a
plain step is one whose piece is also what the reader of paths makes of it.
-/

namespace TrackerTraffic.Target

/-! ### Pieces -/

def isPieceChar (c : Char) : Bool := Path.isNameChar c && c != ']'

theorem isPieceChar_iff {c : Char} : isPieceChar c = true ↔ c ≠ '.' ∧ c ≠ '[' ∧ c ≠ ']' := by
  simp [isPieceChar, Path.isNameChar, and_assoc]

/-- What ends a name is one of the two signs that start a step. -/
theorem sign_of_isNameChar {c : Char} (h : Path.isNameChar c = false) : c = '.' ∨ c = '[' := by
  simpa [Path.isNameChar, Decidable.or_iff_not_imp_left] using h

/-- The pieces of a text between points and opening brackets. -/
def pieces (cs : List Char) : List (List Char) := CodeTable.cutAt '.' (dotted cs)

/-- The piece in front of the first point or opening bracket. -/
def firstPiece (cs : List Char) : List Char := (cs.takeWhile Path.isNameChar).filter (· != ']')

/-- The pieces of a text that is empty or starts with a sign. -/
def piecesBehind : List Char → List (List Char)
  | [] => []
  | _ :: rest => pieces rest

theorem firstPiece_cons {c : Char} (h : isPieceChar c = true) (cs : List Char) :
    firstPiece (c :: cs) = c :: firstPiece cs := by
  obtain ⟨hname, hclose⟩ := (Bool.and_eq_true _ _).mp h
  simp only [firstPiece, List.takeWhile_cons, hname, if_true, List.filter_cons, hclose]

theorem firstPiece_append {front : List Char} (h : ∀ c ∈ front, isPieceChar c = true)
    (cs : List Char) : firstPiece (front ++ cs) = front ++ firstPiece cs := by
  induction front with
  | nil => rfl
  | cons c rest ih =>
    have hrest := ih fun d hd => h d (List.mem_cons_of_mem _ hd)
    rw [List.cons_append, firstPiece_cons (h c List.mem_cons_self), hrest, List.cons_append]

theorem isPieceChar_of_mem_firstPiece {c : Char} {cs : List Char} (h : c ∈ firstPiece cs) :
    isPieceChar c = true := by
  obtain ⟨hmem, hclose⟩ := List.mem_filter.1 h
  have hname := List.all_eq_true.1 List.all_takeWhile c hmem
  rw [isPieceChar, hname, hclose]
  rfl

theorem firstPiece_of_stops {cs : List Char} (h : Path.Stops Path.isNameChar cs) :
    firstPiece cs = [] := by
  cases cs with
  | nil => rfl
  | cons c rest =>
    rw [firstPiece, List.takeWhile_cons, h c rfl]
    rfl

theorem pieces_eq (cs : List Char) :
    pieces cs = firstPiece cs :: piecesBehind (cs.dropWhile Path.isNameChar) := by
  induction cs with
  | nil => rfl
  | cons c rest ih =>
    by_cases hname : Path.isNameChar c = true
    · by_cases hclose : c = ']'
      · have hskip : pieces (c :: rest) = pieces rest := by
          rw [hclose]
          rfl
        rw [hskip, ih, firstPiece, firstPiece, List.takeWhile_cons_of_pos hname,
          List.dropWhile_cons_of_pos hname, hclose]
        rfl
      · have hpiece : isPieceChar c = true := by simp [isPieceChar, hname, hclose]
        obtain ⟨hpoint, hopen, -⟩ := isPieceChar_iff.1 hpiece
        have hdotted : dotted (c :: rest) = c :: dotted rest := by
          simp [dotted, hopen, hclose]
        rw [pieces, hdotted, CodeTable.cutAt, if_neg hpoint, ← pieces, ih,
          firstPiece_cons hpiece, List.dropWhile_cons_of_pos hname]
    · have hend : Path.isNameChar c = false := by simpa using hname
      have hsign : c = '.' ∨ c = '[' := sign_of_isNameChar hend
      have hdotted : dotted (c :: rest) = '.' :: dotted rest := by
        rcases hsign with rfl | rfl <;> rfl
      rw [pieces, hdotted, CodeTable.cutAt, if_pos rfl, ← pieces,
        List.dropWhile_cons_of_neg hname, firstPiece_of_stops]
      · rfl
      · exact .of_cons hend rest

theorem pieces_append {run rest : List Char} (hrun : ∀ c ∈ run, Path.isNameChar c = true)
    (hrest : Path.Stops Path.isNameChar rest) :
    pieces (run ++ rest) = run.filter (· != ']') :: piecesBehind rest := by
  have htake := Path.takeRun_append hrun hrest
  rw [Path.takeRun, Prod.mk.injEq] at htake
  rw [pieces_eq, firstPiece, htake.1, htake.2]

/-! ### Keys of pieces -/

/-- What a key's piece looks like: digits that fit a word, or anything else as a name. -/
theorem keyOf_cases {piece : List Char} {key : Key} (h : keyOf piece = .ok key) :
    piece ≠ [] ∧
      ((∃ n, key = .position n ∧ piece.all Char.isDigit = true ∧
          Text.unsigned? piece = some n ∧ n < 2 ^ 64) ∨
        key = .name (String.ofList piece) ∧ ¬piece.all Char.isDigit = true) := by
  unfold keyOf at h
  split at h
  · exact absurd h (by simp)
  · rename_i hne
    refine ⟨by simpa using hne, ?_⟩
    split at h
    · rename_i hdigits
      split at h
      · rename_i n hread
        exact .inl ⟨n, (Except.ok.inj h).symm, hdigits, hread, Text.lt_of_unsigned? hread⟩
      · exact absurd h (by simp)
    · rename_i hdigits
      exact .inr ⟨(Except.ok.inj h).symm, hdigits⟩

theorem keyOf_nil (key : Key) : keyOf [] ≠ .ok key := fun h => (keyOf_cases h).1 rfl

theorem keyOf_name {piece : List Char} (hne : piece ≠ []) (h : ¬piece.all Char.isDigit = true) :
    keyOf piece = .ok (.name (String.ofList piece)) := by
  rw [keyOf, if_neg (by simpa using hne), if_neg h]

theorem keyOf_position {piece : List Char} {n : Nat} (h : Text.digits? piece = some n)
    (hn : n < 2 ^ 64) : keyOf piece = .ok (.position n) := by
  obtain ⟨hne, hdigits⟩ := Text.forall_isDigit_of_digits? h
  have hall : piece.all Char.isDigit = true := List.all_eq_true.2 hdigits
  have hread := Text.unsigned?_of_digits h hn
  rw [keyOf, if_neg (by simpa using hne), if_pos hall, hread]

theorem keyOf_toString (n : Nat) (hn : n < 2 ^ 64) :
    keyOf (toString n).toList = .ok (.position n) :=
  keyOf_position (Text.digits?_toString n) hn

/-! ### Plain steps -/

/-- A step as it is written: a name behind a point, or an integer in brackets. -/
inductive Step where
  | dotted (name : List Char)
  | bracketed (index : List Char)

def Step.text : Step → List Char
  | .dotted name => '.' :: name
  | .bracketed index => '[' :: (index ++ [']'])

/-- The piece that a step leaves in a target. -/
def Step.piece : Step → List Char
  | .dotted name => name
  | .bracketed index => index

def isPlainChar (c : Char) : Bool := isPieceChar c && !isQuerySign c

/-- The step means one place: its name has no sign in it, and digits only if they are a position's
decimal text; its index is of 64 bits, and digits or else an integer's decimal text. -/
def Step.IsPlain : Step → Prop
  | .dotted name =>
    name ≠ [] ∧ name.all isPlainChar = true ∧
      (name.all Char.isDigit = true → ∃ n < 2 ^ 64, name = (toString n).toList)
  | .bracketed index =>
    ∃ i, Text.signed? index = some i ∧
      (index.all Char.isDigit = true ∨ index = (toString i).toList)

def stepsText (steps : List Step) : List Char := steps.flatMap Step.text

/-- A root sign and steps, or steps without their first point. -/
def IsPlain (cs : List Char) : Prop :=
  ∃ steps, steps ≠ [] ∧ (∀ step ∈ steps, step.IsPlain) ∧
    (cs = '$' :: stepsText steps ∨ cs.head? ≠ some '$' ∧ '.' :: cs = stepsText steps)

theorem Step.spec_of_mem {name : List Char} (h : (Step.dotted name).IsPlain) :
    ∀ c ∈ name, isPieceChar c = true ∧ isQuerySign c = false := by
  intro c hc
  simpa [isPlainChar] using List.all_eq_true.1 h.2.1 c hc

theorem Step.isIntegerText {index : List Char} (h : (Step.bracketed index).IsPlain) :
    Path.IsIntegerText index := by
  obtain ⟨i, hread, hdigits | rfl⟩ := h
  · have hne : index ≠ [] := by
      rintro rfl
      exact absurd hread (by simp [Text.signed?, Text.digits?])
    obtain ⟨c, digits, rfl⟩ := List.exists_cons_of_ne_nil hne
    have hall := List.all_eq_true.1 hdigits
    exact ⟨c, digits, rfl, .inr (hall c List.mem_cons_self),
      fun d hd => hall d (List.mem_cons_of_mem _ hd)⟩
  · exact Path.isIntegerText_toString i

theorem isPieceChar_of_isDigit {c : Char} (h : c.isDigit = true) : isPieceChar c = true := by
  rw [isPieceChar_iff]
  refine ⟨?_, ?_, ?_⟩
  · rintro rfl
    exact absurd h (by decide)
  · rintro rfl
    exact absurd h (by decide)
  · rintro rfl
    exact absurd h (by decide)

theorem Step.isPieceChar_piece {step : Step} (h : step.IsPlain) :
    ∀ c ∈ step.piece, isPieceChar c = true := by
  cases step with
  | dotted name => exact fun c hc => (Step.spec_of_mem h c hc).1
  | bracketed index =>
    obtain ⟨c, digits, rfl, hc, hdigits⟩ := Step.isIntegerText h
    intro d hd
    rcases List.mem_cons.1 hd with rfl | hd
    · rcases hc with rfl | hc
      · decide
      · exact isPieceChar_of_isDigit hc
    · exact isPieceChar_of_isDigit (hdigits d hd)

theorem Step.piecesBehind_append {step : Step} (h : step.IsPlain) {rest : List Char}
    (hrest : Path.Stops Path.isNameChar rest) :
    piecesBehind (step.text ++ rest) = step.piece :: piecesBehind rest := by
  have hpiece := Step.isPieceChar_piece h
  have hname : ∀ c ∈ step.piece, Path.isNameChar c = true :=
    fun c hc => ((Bool.and_eq_true _ _).mp (hpiece c hc)).1
  have hfilter : step.piece.filter (· != ']') = step.piece :=
    List.filter_eq_self.2 fun c hc => ((Bool.and_eq_true _ _).mp (hpiece c hc)).2
  cases step with
  | dotted name =>
    have hpieces := pieces_append hname hrest
    rw [hfilter] at hpieces
    exact hpieces
  | bracketed index =>
    have hrun : ∀ c ∈ index ++ [']'], Path.isNameChar c = true := by
      intro c hc
      rcases List.mem_append.1 hc with hc | hc
      · exact hname c hc
      · rw [List.mem_singleton.1 hc]
        decide
    have hpieces := pieces_append hrun hrest
    have hindex : (index ++ [']']).filter (· != ']') = index := by
      rw [List.filter_append]
      exact (congrArg (· ++ _) hfilter).trans (List.append_nil index)
    rw [hindex] at hpieces
    exact hpieces

theorem keyOf_dotted {name : List Char} (h : (Step.dotted name).IsPlain) :
    ∃ key, keyOf name = .ok key ∧ key.SamePlace (.child (String.ofList name)) := by
  obtain ⟨hne, -, hdigits⟩ := h
  by_cases hall : name.all Char.isDigit = true
  · obtain ⟨n, hn, rfl⟩ := hdigits hall
    refine ⟨.position n, keyOf_toString n hn, hn, ?_⟩
    rw [String.ofList_toList]
    rfl
  · exact ⟨_, keyOf_name hne hall, trivial, rfl⟩

theorem keyOf_bracketed {index : List Char} {i : Int} (hread : Text.signed? index = some i)
    (hform : index.all Char.isDigit = true ∨ index = (toString i).toList) :
    ∃ key, keyOf index = .ok key ∧ key.SamePlace (.index i) := by
  by_cases hall : index.all Char.isDigit = true
  · obtain ⟨n, hdigits, hn, rfl⟩ := Text.exists_of_signed? hread (List.all_eq_true.1 hall)
    have hword : n < 2 ^ 64 := by omega
    exact ⟨.position n, keyOf_position hdigits hword, hword, rfl⟩
  · obtain rfl := hform.resolve_left hall
    have hne : (toString i).toList ≠ [] := by
      intro hnil
      rw [hnil] at hall
      exact hall rfl
    refine ⟨_, keyOf_name hne hall, trivial, ?_⟩
    rw [String.ofList_toList]
    rfl

/-- A name behind a point is a segment, unless another point or a wildcard stands there. -/
theorem reads_segment_name {c : Char} {rest after : List Char} {name : String} (hpoint : c ≠ '.')
    (hstar : c ≠ '*') (h : Path.Reads (Path.readName (c :: rest)) name after) :
    Path.Reads (Path.readSegment ('.' :: c :: rest)) (.child name) after := by
  generalize hcs : '.' :: c :: rest = cs
  rw [Path.readSegment.eq_def]
  split
  · exact absurd (List.cons.inj (List.cons.inj hcs).2).1 hpoint
  · exact absurd (List.cons.inj (List.cons.inj hcs).2).1 hstar
  · obtain rfl := (List.cons.inj hcs).2
    exact h.bind fun _ => ⟨_, rfl⟩
  · exact absurd (List.cons.inj hcs).1 (by decide)
  · rename_i hnone _
    exact absurd hcs.symm (hnone _)

theorem reads_dotted {name : List Char} (h : (Step.dotted name).IsPlain) {rest : List Char}
    (hrest : Path.Stops Path.isNameChar rest) :
    Path.Reads (Path.readSegment ('.' :: (name ++ rest))) (.child (String.ofList name)) rest := by
  have hne := h.1
  have hchars := Step.spec_of_mem h
  have hname : ∀ c ∈ name, Path.isNameChar c = true :=
    fun c hc => ((Bool.and_eq_true _ _).mp (hchars c hc).1).1
  have hread := Path.reads_name hne hname hrest
  obtain ⟨c, letters, rfl⟩ := List.exists_cons_of_ne_nil hne
  obtain ⟨hpiece, hquery⟩ := hchars c List.mem_cons_self
  refine reads_segment_name (isPieceChar_iff.1 hpiece).1 ?_ hread
  rintro rfl
  exact absurd hquery (by decide)

theorem Step.same_place {step : Step} (h : step.IsPlain) :
    ∃ key segment, keyOf step.piece = .ok key ∧ key.SamePlace segment ∧
      ∀ rest, Path.Stops Path.isNameChar rest →
        Path.Reads (Path.readSegment (step.text ++ rest)) segment rest := by
  cases step with
  | dotted name =>
    obtain ⟨key, hkey, hplace⟩ := keyOf_dotted h
    exact ⟨key, _, hkey, hplace, fun rest hrest => reads_dotted h hrest⟩
  | bracketed index =>
    have htext := Step.isIntegerText h
    obtain ⟨i, hread, hform⟩ := h
    obtain ⟨key, hkey, hplace⟩ := keyOf_bracketed hread hform
    refine ⟨key, .index i, hkey, hplace, ?_⟩
    intro rest _
    have hbracket := Path.reads_bracket_index htext hread rest
    have hsplit : (Step.bracketed index).text ++ rest = '[' :: (index ++ ']' :: rest) := by
      simp [Step.text]
    rw [hsplit, Path.readSegment.eq_def]
    exact hbracket.bind fun _ => ⟨_, rfl⟩

theorem stepsText_stops (steps : List Step) : Path.Stops Path.isNameChar (stepsText steps) := by
  cases steps with
  | nil =>
    intro c hc
    exact absurd hc (by simp [stepsText])
  | cons step rest =>
    cases step with
    | dotted name => exact .of_cons (by decide) _
    | bracketed index => exact .of_cons (by decide) _

/-- Plain steps are keys and segments that name the same places one by one. -/
theorem steps_same_places {steps : List Step} (h : ∀ step ∈ steps, step.IsPlain) :
    ∃ keys segments, (piecesBehind (stepsText steps)).mapM keyOf = .ok keys ∧
      Path.readSegments (stepsText steps) = .ok segments ∧
        List.Forall₂ Key.SamePlace keys segments := by
  induction steps with
  | nil => exact ⟨[], [], rfl, by rw [stepsText, List.flatMap_nil, Path.readSegments], .nil⟩
  | cons step rest ih =>
    have hstep := h step List.mem_cons_self
    obtain ⟨key, segment, hkey, hplace, hread⟩ := Step.same_place hstep
    obtain ⟨keys, segments, hkeys, hsegments, hplaces⟩ :=
      ih fun s hs => h s (List.mem_cons_of_mem _ hs)
    have htext : stepsText (step :: rest) = step.text ++ stepsText rest := by
      rw [stepsText, List.flatMap_cons, stepsText]
    have hpieces := Step.piecesBehind_append hstep (stepsText_stops rest)
    refine ⟨key :: keys, segment :: segments, ?_, ?_, .cons hplace hplaces⟩
    · rw [htext, hpieces, List.mapM_cons, hkey, hkeys]
      rfl
    · rw [htext]
      exact Path.readSegments_of_reads (hread _ (stepsText_stops rest)) hsegments

end TrackerTraffic.Target
