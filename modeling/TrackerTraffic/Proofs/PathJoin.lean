import TrackerTraffic.Proofs.Lookahead
import TrackerTraffic.Proofs.Selection
import TrackerTraffic.Proofs.TargetReadBack

/-!
# Joined paths

No segment takes a point or an opening bracket that stands behind it, so what was read as segments
reads as the same in front of others.  The query of a joined path is then the query of its back at
every value that its front finds.
-/

namespace TrackerTraffic.Path

theorem reads_descent_name {c : Char} {rest after : List Char} {name : String} (hstar : c ≠ '*')
    (hopen : c ≠ '[') (h : Reads (readName (c :: rest)) name after) :
    Reads (readDescent (c :: rest)) (.descendant (.child name)) after := by
  generalize hcs : c :: rest = cs at h
  rw [readDescent.eq_def]
  split
  · exact absurd (List.cons.inj hcs).1 hstar
  · exact absurd (List.cons.inj hcs).1 hopen
  · exact h.bind fun _ => ⟨_, rfl⟩

theorem readPath_of_reads {c : Char} {rest after : List Char} {name : String}
    {others : List Segment} (hroot : c ≠ '$') (hchar : isNameChar c = true)
    (hname : Reads (readName (c :: rest)) name after) (hothers : readSegments after = .ok others) :
    readPath (c :: rest) = .ok (.child name :: others) := by
  obtain ⟨hpoint, hopen⟩ : c ≠ '.' ∧ c ≠ '[' := by simpa [isNameChar] using hchar
  generalize hcs : c :: rest = cs at hname
  obtain ⟨shorter, hread⟩ := hname
  unfold readPath
  split
  · cases hcs
  · exact absurd (List.cons.inj hcs).1 hroot
  · exact absurd (List.cons.inj hcs).1 hpoint
  · exact absurd (List.cons.inj hcs).1 hopen
  · rw [hread]
    show (readSegments after >>= fun others => .ok (.child name :: others)) = _
    rw [hothers]
    rfl

section Behind

variable {behind : List Char} (hbehind : StartsSegment behind)

include hbehind

/-! ### Segments in front of others -/

section Segments

variable {cs rest : List Char} {segment : Segment}

theorem reads_bracketContent_behind (h : Reads (readBracketContent cs) segment rest) :
    Reads (readBracketContent (cs ++ behind)) segment (rest ++ behind) := by
  cases cs with
  | nil => exact absurd h not_reads_stuck
  | cons c cs =>
    rw [readBracketContent] at h
    rw [List.cons_append, readBracketContent]
    split_ifs at h ⊢
    · obtain ⟨rfl, rfl⟩ := Reads.of_pure h
      exact ⟨_, rfl⟩
    · -- the closing parenthesis stands behind the condition, which so leaves something
      obtain ⟨_, _, _, hopen, h⟩ := h.of_bind
      obtain ⟨_, after, _, hcondition, h⟩ := Reads.of_bind h
      obtain ⟨_, _, _, hclose, hpure⟩ := Reads.of_bind h
      obtain ⟨rfl, rfl⟩ := hpure.of_pure
      have hafter : after ≠ [] := ne_nil_of_skipBlank (by simp [reads_expectNext_spec hclose])
      refine (reads_expectNext_behind hbehind.endsWord hopen).bind fun _ => ?_
      refine (reads_or_behind hbehind.endsWord hcondition (.inl hafter)).bind fun _ => ?_
      exact (reads_expectNext_behind hbehind.endsWord hclose).bind fun _ => ⟨_, rfl⟩
    · obtain ⟨_, hname, rfl⟩ := reads_map_iff.1 h
      exact reads_map_iff.2 ⟨_, reads_string_behind hname, rfl⟩
    · obtain ⟨_, hindex, rfl⟩ := reads_map_iff.1 h
      have hlonger := reads_index_behind hbehind.endsWord hindex
      exact reads_map_iff.2 ⟨_, hlonger, rfl⟩
    · exact absurd h not_reads_stuck

theorem reads_bracket_behind (h : Reads (readBracket cs) segment rest) :
    Reads (readBracket (cs ++ behind)) segment (rest ++ behind) := by
  obtain ⟨after, hcontent, hclose⟩ := reads_bracket_spec h
  have hlonger := reads_bracketContent_behind hbehind hcontent
  rw [← hbehind.endsWord.skipBlank] at hlonger
  have hend : skipBlank (after ++ behind) = ']' :: (rest ++ behind) := by
    rw [hbehind.endsWord.skipBlank, hclose, List.cons_append]
  exact hlonger.bind fun _ => (reads_expectNext hend).bind fun _ => ⟨_, rfl⟩

theorem reads_descent_behind (h : Reads (readDescent cs) segment rest) :
    Reads (readDescent (cs ++ behind)) segment (rest ++ behind) := by
  rw [readDescent.eq_def] at h
  split at h
  · obtain ⟨rfl, rfl⟩ := Reads.of_pure h
    exact ⟨_, rfl⟩
  · obtain ⟨_, hbracket, rfl⟩ := reads_map_iff.1 h
    rw [List.cons_append, readDescent.eq_def]
    exact reads_map_iff.2 ⟨_, reads_bracket_behind hbehind hbracket, rfl⟩
  · rename_i hstar hopen
    obtain ⟨_, hname, rfl⟩ :=
      (reads_map_iff (f := fun name => Segment.descendant (.child name))).1 h
    obtain ⟨c, rest, rfl⟩ := List.exists_cons_of_ne_nil hname.ne_nil
    refine reads_descent_name ?_ ?_ (reads_name_behind hbehind hname)
    · rintro rfl
      exact hstar rest rfl
    · rintro rfl
      exact hopen rest rfl

theorem reads_segment_behind (h : Reads (readSegment cs) segment rest) :
    Reads (readSegment (cs ++ behind)) segment (rest ++ behind) := by
  rw [readSegment.eq_def] at h
  split at h
  · have hdescent := reads_same_iff.1 h
    rw [List.cons_append, List.cons_append, readSegment.eq_def]
    exact reads_same_iff.2 (reads_descent_behind hbehind hdescent)
  · obtain ⟨rfl, rfl⟩ := Reads.of_pure h
    exact ⟨_, rfl⟩
  · rename_i hpoint hstar
    obtain ⟨_, hname, rfl⟩ := reads_map_iff.1 h
    obtain ⟨c, rest, rfl⟩ := List.exists_cons_of_ne_nil hname.ne_nil
    refine Target.reads_segment_name ?_ ?_ (reads_name_behind hbehind hname)
    · rintro rfl
      exact hpoint rest rfl
    · rintro rfl
      exact hstar rest rfl
  · have hbracket := reads_same_iff.1 h
    rw [List.cons_append, readSegment.eq_def]
    exact reads_same_iff.2 (reads_bracket_behind hbehind hbracket)
  · exact absurd h not_reads_stuck

end Segments

/-! ### Paths in front of segments -/

variable {back : List Segment} (hback : readSegments behind = .ok back)

include hback

theorem readSegments_append {cs : List Char} {front : List Segment}
    (hfront : readSegments cs = .ok front) :
    readSegments (cs ++ behind) = .ok (front ++ back) := by
  -- what stands behind the first segment is shorter, and the same is known of it
  induction hn : cs.length using Nat.strongRecOn generalizing cs front with
  | ind n ih =>
  cases cs with
  | nil =>
    rw [readSegments] at hfront
    obtain rfl := Except.ok.inj hfront
    exact hback
  | cons c rest =>
    obtain ⟨segment, after, others, hsegment, hlength, hothers, rfl⟩ := readSegments_cons hfront
    have hlater := ih after.length (hn ▸ hlength) hothers rfl
    exact readSegments_of_reads (reads_segment_behind hbehind hsegment) hlater

theorem readPath_append {cs : List Char} {front : List Segment} (hfront : readPath cs = .ok front) :
    readPath (cs ++ behind) = .ok (front ++ back) := by
  cases cs with
  | nil =>
    obtain rfl := Except.ok.inj hfront
    obtain ⟨c, rest, rfl, rfl | rfl⟩ := hbehind
    · exact hback
    · exact hback
  | cons c rest =>
    by_cases hroot : c = '$'
    · subst hroot
      exact readSegments_append hbehind hback hfront
    · by_cases hchar : isNameChar c = true
      · obtain ⟨_, _, _, hread, hothers, rfl⟩ := Target.readPath_cases hroot hchar hfront
        exact readPath_of_reads hroot hchar (reads_name_behind hbehind hread)
          (readSegments_append hbehind hback hothers)
      · rcases Target.sign_of_isNameChar (by simpa using hchar) with rfl | rfl
        · exact readSegments_append hbehind hback hfront
        · exact readSegments_append hbehind hback hfront

end Behind

theorem parse_behind {a b : String} {path : Path} {back : List Segment}
    (hstart : StartsSegment b.toList) (hfront : parse a = .ok path)
    (hback : readSegments b.toList = .ok back) :
    parse (a ++ b) = .ok ⟨a ++ b, path.segments ++ back⟩ := by
  refine parse_of_readPath ?_
  rw [String.toList_append]
  exact readPath_append hstart hback (Target.readPath_of_parse hfront)

/-! ### Queries of joined paths -/

theorem query_append (source : String) (front back : Path) (root : Json) :
    (⟨source, front.segments ++ back.segments⟩ : Path).query root =
      (front.query root).flatMap back.query := by
  rw [query, selectAll_append, selectAll_eq_flatMap]
  rfl

/-- The text of segments behind a path reads, and finds what it finds as a path of its own at every
value that the path in front finds, in their order. -/
theorem parse_join {a b : String} {front back : Path} (hstart : StartsSegment b.toList)
    (hfront : parse a = .ok front) (hback : parse ("$" ++ b) = .ok back) :
    ∃ joined, parse (a ++ b) = .ok joined ∧
      ∀ root, joined.query root = (front.query root).flatMap back.query := by
  have hroot : ("$" ++ b).toList = '$' :: b.toList := String.toList_append
  have hsegments := Target.readPath_of_parse hback
  rw [hroot] at hsegments
  exact ⟨_, parse_behind hstart hfront hsegments, query_append _ front back⟩

/-- A filter whose texts hold points, brackets and quotes, in front of a name and an index. -/
theorem parse_join_filter :
    let named : Operand := .mk .current [.member ".["]
    let quote : Operand := .mk (.literal (.string "]'")) []
    let front : Path :=
      ⟨"$..[?(@['.['] === ']\\'')]", [.descendant (.filter (.compare named .strictEq quote))]⟩
    let back : Path := ⟨"$.k[-1]", [.child "k", .index (-1)]⟩
    StartsSegment ".k[-1]".toList ∧ parse front.source = .ok front ∧
      parse ("$" ++ ".k[-1]") = .ok back ∧
      ∃ joined, parse (front.source ++ ".k[-1]") = .ok joined ∧
        ∀ root, joined.query root = (front.query root).flatMap back.query := by
  intro named quote front back
  have hstart : StartsSegment ".k[-1]".toList := ⟨'.', "k[-1]".toList, by decide, .inl rfl⟩
  have hprintable : ∀ s ∈ front.segments, s.Printable := by
    simp [front, named, quote, Segment.Printable, Filter.Printable, Operand.Printable,
      AccessorsPrintable, Accessor.Printable, Base.Printable, Base.isNumber, startsWithCall,
      Segment.isDescent]
  have htext : front.source.toList = Layout.plain.path front.segments := by decide
  have hfront : parse front.source = .ok front := by
    refine parse_of_readPath ?_
    rw [htext]
    exact readSegments_written hprintable
  have hback : parse ("$" ++ ".k[-1]") = .ok back := by cbv
  exact ⟨hstart, hfront, hback, parse_join hstart hfront hback⟩

end TrackerTraffic.Path
