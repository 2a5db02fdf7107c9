import TrackerTraffic.Proofs.TargetAgreement

/-!
# Reading back a write

A text that is both a write target and a read path may name two places.  It
names one place, so that the path finds just the value written at the target in
any object, exactly if it is plain.
-/

namespace TrackerTraffic.Target

/-! ### Keys of whole texts -/

theorem readKeys_spec {cs : List Char} {keys : List Key} (h : readKeys cs = .ok keys) :
    (∀ c ∈ dropRoot (dotted cs), isQuerySign c = false) ∧
      (CodeTable.cutAt '.' (dropRoot (dotted cs))).mapM keyOf = .ok keys := by
  unfold readKeys at h
  simp only at h
  split at h
  · cases h
  · split at h
    · cases h
    · rename_i hquery
      exact ⟨by simpa using hquery, h⟩

theorem isQuerySign_of_dotted {cs : List Char} (h : ∀ c ∈ dotted cs, isQuerySign c = false) :
    ∀ c ∈ cs, isQuerySign c = false := by
  intro c hc
  by_cases hopen : c = '['
  · rw [hopen]
    decide
  · by_cases hclose : c = ']'
    · rw [hclose]
      decide
    · refine h c (List.mem_filter.2 ⟨List.mem_map.2 ⟨c, hc, if_neg hopen⟩, ?_⟩)
      simpa using hclose

theorem keys_behind_root {rest : List Char} {keys : List Key} (hne : rest ≠ [])
    (hstops : Path.Stops Path.isNameChar rest) (h : readKeys ('$' :: rest) = .ok keys) :
    (piecesBehind rest).mapM keyOf = .ok keys ∧ ∀ c ∈ rest, isQuerySign c = false := by
  obtain ⟨c, behind, rfl⟩ := List.exists_cons_of_ne_nil hne
  have hsign : c = '.' ∨ c = '[' := sign_of_isNameChar (hstops c rfl)
  have hdotted : dropRoot (dotted ('$' :: c :: behind)) = dotted behind := by
    rcases hsign with rfl | rfl <;> rfl
  obtain ⟨hquery, hkeys⟩ := readKeys_spec h
  rw [hdotted] at hquery hkeys
  refine ⟨hkeys, List.forall_mem_cons.2 ⟨?_, isQuerySign_of_dotted hquery⟩⟩
  rcases hsign with rfl | rfl <;> decide

/-- A first name has the keys that it has behind a point. -/
theorem keys_of_name {c : Char} {rest : List Char} {keys : List Key} (hroot : c ≠ '$')
    (hpiece : isPieceChar c = true) (h : readKeys (c :: rest) = .ok keys) :
    (piecesBehind ('.' :: c :: rest)).mapM keyOf = .ok keys ∧
      ∀ d ∈ '.' :: c :: rest, isQuerySign d = false := by
  obtain ⟨-, hopen, hclose⟩ := isPieceChar_iff.1 hpiece
  have hdotted : dotted (c :: rest) = c :: dotted rest := by simp [dotted, hopen, hclose]
  have hdrop : dropRoot (dotted (c :: rest)) = dotted (c :: rest) := by
    rw [hdotted, dropRoot]
    intro behind heq
    exact hroot (List.cons.inj heq).1
  obtain ⟨hquery, hkeys⟩ := readKeys_spec h
  rw [hdrop] at hquery hkeys
  exact ⟨hkeys, List.forall_mem_cons.2 ⟨by decide, isQuerySign_of_dotted hquery⟩⟩

theorem no_bracket_of_mem_dotted {c : Char} {cs : List Char} (h : c ∈ dotted cs) :
    c ≠ '[' ∧ c ≠ ']' := by
  obtain ⟨hmem, hclose⟩ := List.mem_filter.1 h
  obtain ⟨d, -, rfl⟩ := List.mem_map.1 hmem
  refine ⟨?_, by simpa using hclose⟩
  split
  · decide
  · assumption

theorem dotted_eq_self {cs : List Char} (h : ∀ c ∈ cs, c ≠ '[' ∧ c ≠ ']') : dotted cs = cs := by
  have hmap : cs.map (fun c => if c = '[' then '.' else c) = cs := by
    refine (List.map_congr_left fun c hc => if_neg (h c hc).1).trans ?_
    exact List.map_id' cs
  rw [dotted, hmap, List.filter_eq_self]
  intro c hc
  simpa using (h c hc).2

theorem mem_of_mem_dropRoot {c : Char} {cs : List Char} (h : c ∈ dropRoot cs) : c ∈ cs := by
  unfold dropRoot at h
  split at h
  · exact List.mem_cons_of_mem _ (List.mem_cons_of_mem _ h)
  · exact h

theorem readKeys_first {cs : List Char} {keys : List Key} (h : readKeys cs = .ok keys) :
    ∃ key rest, keys = key :: rest ∧ ']' ∉ key.text.toList := by
  have hself : dotted (dropRoot (dotted cs)) = dropRoot (dotted cs) :=
    dotted_eq_self fun c hc => no_bracket_of_mem_dotted (mem_of_mem_dropRoot hc)
  obtain ⟨-, hkeys⟩ := readKeys_spec h
  rw [← hself, ← pieces, pieces_eq] at hkeys
  obtain ⟨key, rest, hkey, -, rfl⟩ := mapM_keyOf_cons hkeys
  refine ⟨key, rest, rfl, fun hmem => ?_⟩
  obtain ⟨-, ⟨n, rfl, -⟩ | ⟨rfl, -⟩⟩ := keyOf_cases hkey
  · exact absurd (Text.isDigit_of_mem_toString hmem) (by decide)
  · rw [Key.text, String.toList_ofList] at hmem
    exact absurd (isPieceChar_of_mem_firstPiece hmem) (by decide)

theorem isNameChar_of_readKeys {c : Char} {rest : List Char} {keys : List Key}
    (h : readKeys (c :: rest) = .ok keys) : Path.isNameChar c = true := by
  cases hname : Path.isNameChar c with
  | true => rfl
  | false =>
    have hsign : c = '.' ∨ c = '[' := sign_of_isNameChar hname
    have hdrop : dropRoot (dotted (c :: rest)) = dotted (c :: rest) := by
      rcases hsign with rfl | rfl <;> rfl
    obtain ⟨-, hkeys⟩ := readKeys_spec h
    rw [hdrop, ← pieces, pieces_eq, firstPiece_of_stops (.of_cons hname rest)] at hkeys
    obtain ⟨key, _, hkey, -⟩ := mapM_keyOf_cons hkeys
    exact absurd hkey (keyOf_nil key)

/-! ### Whole paths -/

theorem readPath_cases {c : Char} {rest : List Char} {segments : List Path.Segment}
    (hroot : c ≠ '$') (hname : Path.isNameChar c = true)
    (h : Path.readPath (c :: rest) = .ok segments) :
    ∃ name after others, Path.Reads (Path.readName (c :: rest)) name after ∧
      Path.readSegments after = .ok others ∧ segments = .child name :: others := by
  obtain ⟨hpoint, hopen⟩ : c ≠ '.' ∧ c ≠ '[' := by simpa [Path.isNameChar] using hname
  generalize hcs : c :: rest = cs at h
  unfold Path.readPath at h
  split at h
  · cases hcs
  · exact absurd (List.cons.inj hcs).1 hroot
  · exact absurd (List.cons.inj hcs).1 hpoint
  · exact absurd (List.cons.inj hcs).1 hopen
  · cases hread : Path.readName cs with
    | error e =>
      rw [hread] at h
      cases h
    | ok taken =>
      rw [hread] at h
      have hrest : (Path.readSegments taken.rest >>= fun others =>
          .ok (.child taken.value :: others)) = Except.ok segments := h
      cases hothers : Path.readSegments taken.rest with
      | error e =>
        rw [hothers] at hrest
        cases hrest
      | ok others =>
        rw [hothers] at hrest
        exact ⟨taken.value, taken.rest, others, ⟨_, rfl⟩, hothers, (Except.ok.inj hrest).symm⟩

theorem readSegments_of_readPath {c : Char} {rest : List Char} {segments : List Path.Segment}
    (hroot : c ≠ '$') (hname : Path.isNameChar c = true) (hstar : c ≠ '*')
    (h : Path.readPath (c :: rest) = .ok segments) :
    Path.readSegments ('.' :: c :: rest) = .ok segments := by
  obtain ⟨name, after, others, hread, hothers, rfl⟩ := readPath_cases hroot hname h
  have hpoint : c ≠ '.' := by
    rintro rfl
    exact absurd hname (by decide)
  exact Path.readSegments_of_reads (reads_segment_name hpoint hstar hread) hothers

theorem stepsText_ne_nil {steps : List Step} (h : steps ≠ []) : stepsText steps ≠ [] := by
  obtain ⟨step, rest, rfl⟩ := List.exists_cons_of_ne_nil h
  cases step <;> simp [stepsText, Step.text]

theorem plain_head {cs : List Char} {steps : List Step} (hsteps : ∀ step ∈ steps, step.IsPlain)
    (h : '.' :: cs = stepsText steps) :
    ∃ c rest, cs = c :: rest ∧ isPieceChar c = true ∧ isQuerySign c = false := by
  cases steps with
  | nil => cases h
  | cons step others =>
    cases step with
    | bracketed index => exact absurd (List.cons.inj h).1 (by decide)
    | dotted name =>
      have hplain := hsteps _ List.mem_cons_self
      obtain ⟨c, letters, rfl⟩ := List.exists_cons_of_ne_nil hplain.1
      exact ⟨c, _, (List.cons.inj h).2, Step.spec_of_mem hplain c List.mem_cons_self⟩

theorem same_places_of_plain {cs : List Char} {keys : List Key} {segments : List Path.Segment}
    (hplain : IsPlain cs) (hkeys : readKeys cs = .ok keys)
    (hread : Path.readPath cs = .ok segments) : List.Forall₂ Key.SamePlace keys segments := by
  obtain ⟨steps, hne, hsteps, htext⟩ := hplain
  obtain ⟨keys', segments', hkeys', hsegments', hplaces⟩ := steps_same_places hsteps
  rcases htext with rfl | ⟨hroot, hcs⟩
  · have hbehind := keys_behind_root (stepsText_ne_nil hne) (stepsText_stops steps) hkeys
    have hsegments : Path.readSegments (stepsText steps) = .ok segments := hread
    obtain rfl := Except.ok.inj (hkeys'.symm.trans hbehind.1)
    obtain rfl := Except.ok.inj (hsegments'.symm.trans hsegments)
    exact hplaces
  · obtain ⟨c, rest, rfl, hpiece, hquery⟩ := plain_head hsteps hcs
    have hdollar : c ≠ '$' := fun heq => hroot (congrArg some heq)
    have hname := ((Bool.and_eq_true _ _).mp hpiece).1
    have hstar : c ≠ '*' := by
      rintro rfl
      exact absurd hquery (by decide)
    have hbehind := keys_of_name hdollar hpiece hkeys
    have hsegments := readSegments_of_readPath hdollar hname hstar hread
    rw [hcs] at hbehind hsegments
    obtain rfl := Except.ok.inj (hkeys'.symm.trans hbehind.1)
    obtain rfl := Except.ok.inj (hsegments'.symm.trans hsegments)
    exact hplaces

/-- A text whose segments find the one value of the chain of its keys is plain. -/
theorem plain_of_chain {cs : List Char} {keys : List Key} {segments : List Path.Segment}
    (hkeys : readKeys cs = .ok keys) (hread : Path.readPath cs = .ok segments)
    (hfind : Path.selectAll segments [chain keys .null] = [.null]) : IsPlain cs := by
  obtain ⟨key, later, rfl, hclose⟩ := readKeys_first hkeys
  cases cs with
  | nil =>
    obtain rfl : [] = segments := Except.ok.inj hread
    cases eq_nil_of_selectAll_chain hfind
  | cons c rest =>
    have hname := isNameChar_of_readKeys hkeys
    by_cases hroot : c = '$'
    · subst hroot
      have hsegments : Path.readSegments rest = .ok segments := hread
      by_cases hrest : rest = []
      · rw [hrest, Path.readSegments] at hsegments
        obtain rfl := Except.ok.inj hsegments
        cases eq_nil_of_selectAll_chain hfind
      · have hstops := Path.stops_of_readSegments hsegments
        obtain ⟨hbehind, hquery⟩ := keys_behind_root hrest hstops hkeys
        obtain ⟨steps, hsteps, rfl⟩ := exists_steps hsegments hquery hbehind hfind
        refine ⟨steps, ?_, hsteps, .inl rfl⟩
        rintro rfl
        exact hrest rfl
    · obtain ⟨name, after, others, hnamed, hothers, rfl⟩ := readPath_cases hroot hname hread
      have hmember : (Path.Segment.child name).member? = some name := rfl
      obtain ⟨_, _, heq, htext, -⟩ := selectAll_chain hmember hfind
      obtain ⟨rfl, rfl⟩ := List.cons.inj heq
      obtain ⟨hcs, hne, -⟩ := Path.reads_name_spec hnamed
      have hpiece : isPieceChar c = true := by
        obtain ⟨d, letters, hletters⟩ := List.exists_cons_of_ne_nil hne
        rw [hletters, List.cons_append] at hcs
        obtain rfl := (List.cons.inj hcs).1
        have hmem : c ≠ ']' := by
          rintro rfl
          rw [← htext, hletters] at hclose
          exact hclose List.mem_cons_self
        simp [isPieceChar, hname, hmem]
      have hbehind := keys_of_name hroot hpiece hkeys
      have hstar : c ≠ '*' := by
        rintro rfl
        exact absurd (hbehind.2 '*' (by simp)) (by decide)
      have hsegments := readSegments_of_readPath hroot hname hstar hread
      obtain ⟨steps, hsteps, hcs⟩ := exists_steps hsegments hbehind.2 hbehind.1 hfind
      refine ⟨steps, ?_, hsteps, .inr ⟨?_, hcs⟩⟩
      · rintro rfl
        cases hcs
      · exact fun h => hroot (Option.some.inj h)

/-! ### Reading back -/

theorem readKeys_of_parse {s : String} {target : Target} (h : parse s = .ok target) :
    readKeys s.toList = .ok target.keys := by
  unfold parse at h
  split at h
  · rename_i keys hkeys
    obtain rfl := Except.ok.inj h
    exact hkeys
  · cases h

theorem readPath_of_parse {s : String} {path : Path} (h : Path.parse s = .ok path) :
    Path.readPath s.toList = .ok path.segments := by
  unfold Path.parse at h
  simp only at h
  split at h
  · rename_i segments hsegments
    obtain rfl := Except.ok.inj h
    exact hsegments
  · cases h

/-- Of the texts that are a target and a path, just the plain ones name one place: whatever is
written at the target into an object, the path finds it and nothing else. -/
theorem query_assign_iff {s : String} {target : Target} {path : Path}
    (htarget : parse s = .ok target) (hpath : Path.parse s = .ok path) :
    IsPlain s.toList ↔
      ∀ (members : Json.Members) (value root' : Json),
        target.assign (.object members) value = (root', .written) → path.query root' = [value] := by
  have hkeys := readKeys_of_parse htarget
  have hread := readPath_of_parse hpath
  constructor
  · intro hplain members value root' hwritten
    exact selectAll_assignAt (same_places_of_plain hplain hkeys hread) hwritten
  · intro hback
    obtain ⟨key, rest, hcons, -⟩ := readKeys_first hkeys
    -- written into an empty object, the chain of the keys is all there is to find
    have hwritten : target.assign (.object []) .null = (chain target.keys .null, .written) := by
      rw [assign, hcons]
      exact assignAt_empty key rest .null
    exact plain_of_chain hkeys hread (hback [] .null _ hwritten)

/-- A root sign, a name, positions in brackets and behind a point, and a negative index. -/
theorem query_assign_plain :
    let s := "$.res[007][-1].0"
    ∃ target path, parse s = .ok target ∧ Path.parse s = .ok path ∧ IsPlain s.toList ∧
      ∀ (members : Json.Members) (value root' : Json),
        target.assign (.object members) value = (root', .written) → path.query root' = [value] := by
  intro s
  have htarget : parse s = .ok ⟨s, [.name "res", .position 7, .name "-1", .position 0]⟩ := by
    decide +kernel
  have hpath : Path.parse s = .ok ⟨s, [.child "res", .index 7, .index (-1), .child "0"]⟩ := by cbv
  have hplain : IsPlain s.toList := by
    refine ⟨[.dotted "res".toList, .bracketed "007".toList, .bracketed "-1".toList,
      .dotted "0".toList], by decide, ?_, .inl (by decide)⟩
    simp only [List.forall_mem_cons, Step.IsPlain]
    refine ⟨⟨by decide, by decide, fun h => absurd h (by decide)⟩, ⟨7, by decide, by decide⟩,
      ⟨-1, by decide, by decide⟩, ⟨by decide, by decide, fun _ => ⟨0, by decide, by decide⟩⟩, ?_⟩
    exact List.forall_mem_nil _
  exact ⟨_, _, htarget, hpath, hplain, (query_assign_iff htarget hpath).1 hplain⟩

/-- A quoted name in brackets is written under its quotes, and read back without them. -/
theorem query_assign_quoted :
    ∃ target path root', parse "res['b']" = .ok target ∧ Path.parse "res['b']" = .ok path ∧
      target.assign (.object []) (.bool true) = (root', .written) ∧
        path.query root' ≠ [.bool true] := by
  have htarget : parse "res['b']" = .ok ⟨"res['b']", [.name "res", .name "'b'"]⟩ := by
    decide +kernel
  have hpath : Path.parse "res['b']" = .ok ⟨"res['b']", [.child "res", .child "b"]⟩ := by cbv
  refine ⟨_, _, .object [("res", .object [("'b'", .bool true)])], htarget, hpath, rfl, ?_⟩
  have hquery : Path.query ⟨"res['b']", [.child "res", .child "b"]⟩
      (.object [("res", .object [("'b'", .bool true)])]) = [] := by cbv
  rw [hquery]
  exact List.cons_ne_nil _ _ ∘ Eq.symm

end TrackerTraffic.Target
