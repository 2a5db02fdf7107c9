import TrackerTraffic.Proofs.Locations
import TrackerTraffic.Proofs.Selection
import TrackerTraffic.Proofs.TargetAgreement

/-!
# Written locations

The links down to a value, written in brackets, are a path that leads to this value and to no
other: any name in quotes, and positions counted from the front or from the end of the array.  An
index that passes an end of its array leads nowhere, and one that 64 bits do not hold is no text
of a path.
-/

namespace TrackerTraffic

namespace Text

theorem range_of_signed?_toString {i j : Int} (h : signed? (toString i).toList = some j) :
    -2 ^ 63 ≤ i ∧ i < 2 ^ 63 := by
  rw [int_toString_toList] at h
  split at h
  · obtain ⟨n, hread, hn, -⟩ := exists_of_signed? h fun _ hc => isDigit_of_mem_toString hc
    rw [digits?_toString, Option.some.injEq] at hread
    omega
  · simp only [signed?, digits?_toString] at h
    split at h
    · rename_i hword
      have hword : (-i).toNat ≤ 2 ^ 63 := hword
      omega
    · cases h

end Text

namespace Path

open Json (Link Location)

/-! ### Texts of locations -/

/-- A name in quotes or a position, in brackets. -/
def linkText : Link → List Char
  | .member name => '[' :: (quoted name ++ [']'])
  | .item i => '[' :: ((toString i).toList ++ [']'])

def locationText (l : Location) : String := String.ofList ('$' :: l.flatMap linkText)

def segmentOfLink : Link → Segment
  | .member name => .child name
  | .item i => .index i

theorem locationText_eq (l : Location) :
    locationText l = String.ofList (Layout.plain.path (l.map segmentOfLink)) := by
  have hlink : ∀ link, linkText link = Layout.plain.segment (segmentOfLink link) := by
    intro link
    cases link <;> rfl
  rw [locationText, Layout.path, List.flatMap_map, List.flatMap_congr fun link _ => hlink link]

/-- The segment spells the link of a child: a position may be counted from the end, where the last
item of an array is at `-1`. -/
inductive SpellsLink : Json → Link → Segment → Prop
  | member (members : Json.Members) (name : String) :
      SpellsLink (.object members) (.member name) (.child name)
  | item (items : List Json) (i : Nat) : SpellsLink (.array items) (.item i) (.index i)
  | itemFromEnd (items : List Json) (i : Nat) :
      SpellsLink (.array items) (.item i) (.index (-(items.length - i)))

/-- The segments spell the links down from a value, each at the value that it leads from. -/
inductive Spells : Json → Location → List Segment → Prop
  | root (v : Json) : Spells v [] []
  | link {v w : Json} {link : Link} {segment : Segment} {l : Location} {segments : List Segment}
      (hspells : SpellsLink v link segment) (hchild : v.child? link = some w)
      (hrest : Spells w l segments) : Spells v (link :: l) (segment :: segments)

theorem spellsLink_segmentOfLink {v w : Json} {link : Link} (h : v.child? link = some w) :
    SpellsLink v link (segmentOfLink link) := by
  cases v with
  | array items =>
    cases link with
    | member name => cases h
    | item i => exact .item items i
  | object members =>
    cases link with
    | member name => exact .member members name
    | item i => cases h
  | _ => cases link <;> cases h

theorem spells_map_segmentOfLink {root v : Json} {l : Location} (h : root.at? l = some v) :
    Spells root l (l.map segmentOfLink) := by
  induction l generalizing root with
  | nil => exact .root root
  | cons link rest ih =>
    obtain ⟨w, hchild, hrest⟩ := Option.bind_eq_some_iff.1 h
    exact .link (spellsLink_segmentOfLink hchild) hchild (ih hrest)

/-! ### What is found -/

theorem SpellsLink.select {v w : Json} {link : Link} {segment : Segment}
    (h : SpellsLink v link segment) (hchild : v.child? link = some w) : segment.select v = [w] := by
  cases h with
  | member members name =>
    rw [Segment.select]
    exact congrArg Option.toList hchild
  | item items i =>
    have hfront : ¬ (i : Int) < 0 := by omega
    rw [Segment.select, childAt, itemAt?, if_neg hfront, Int.toNat_natCast]
    exact congrArg Option.toList hchild
  | itemFromEnd items i =>
    obtain ⟨hi, -⟩ := List.getElem?_eq_some_iff.1 hchild
    have hend : (-(items.length - i) : Int) < 0 := by omega
    have hinside : ¬ items.length < (-(items.length - i) : Int).natAbs := by omega
    have hposition : items.length - (-(items.length - i) : Int).natAbs = i := by omega
    rw [Segment.select, childAt, itemAt?, if_pos hend, if_neg hinside, hposition]
    exact congrArg Option.toList hchild

theorem select_index_outside {items : List Json} {index : Int}
    (h : index < -items.length ∨ items.length ≤ index) :
    (Segment.index index).select (.array items) = [] := by
  rw [Segment.select, childAt, itemAt?]
  split
  · have houtside : items.length < index.natAbs := by omega
    rw [if_pos houtside]
    rfl
  · have houtside : items.length ≤ index.toNat := by omega
    rw [List.getElem?_eq_none houtside]
    rfl

/-- What spells the links down to a value leads to this value alone. -/
theorem Spells.selectAll {root v : Json} {l : Location} {segments : List Segment}
    (h : Spells root l segments) (hat : root.at? l = some v) :
    Path.selectAll segments [root] = [v] := by
  induction h with
  | root w =>
    obtain rfl := Option.some.inj hat
    rfl
  | link hspells hchild _ ih =>
    rw [Json.at?_of_child? hchild] at hat
    rw [Target.selectAll_cons, hspells.select hchild, ih hat]

theorem Spells.eq_index_or_printable {root : Json} {l : Location} {segments : List Segment}
    (h : Spells root l segments) : ∀ s ∈ segments, (∃ i, s = .index i) ∨ s.Printable := by
  induction h with
  | root v => exact fun _ hmem => absurd hmem List.not_mem_nil
  | link hspells _ _ ih =>
    refine List.forall_mem_cons.2 ⟨?_, ih⟩
    cases hspells with
    | member members name => exact .inr trivial
    | item items i => exact .inl ⟨_, rfl⟩
    | itemFromEnd items i => exact .inl ⟨_, rfl⟩

/-! ### What is read -/

theorem fits_of_reads_index {i j : Int} {behind after : List Char}
    (hbehind : Stops Char.isDigit behind)
    (h : Reads (readIndex ((toString i).toList ++ behind)) j after) : Fits i := by
  have hsplit := splitInteger_of_isIntegerText (isIntegerText_toString i) hbehind
  unfold readIndex at h
  split at h
  · rename_i n hn
    rw [hsplit] at hn
    exact Text.range_of_signed?_toString hn
  · exact absurd h not_reads_stuck

theorem fits_of_reads_segment {i : Int} {behind after : List Char} {segment : Segment}
    (h : Reads (readSegment ('[' :: ((toString i).toList ++ ']' :: behind))) segment after) :
    Fits i := by
  rcases reads_segment_cases h with ⟨_, heq⟩ | ⟨_, heq⟩ | ⟨_, _, heq, -⟩ | ⟨_, heq, hbracket⟩
  · exact absurd (List.cons.inj heq).1 (by decide)
  · exact absurd (List.cons.inj heq).1 (by decide)
  · exact absurd (List.cons.inj heq).1 (by decide)
  · obtain rfl := (List.cons.inj heq).2
    have hinteger := isIntegerText_toString i
    obtain ⟨_, hcontent, -⟩ := reads_bracket_spec hbracket
    rw [skipBlank_of_isIntegerText hinteger] at hcontent
    obtain ⟨c, rest, hcons, hcases⟩ := reads_content_cases hcontent
    have hstart : c = '-' ∨ c.isDigit = true := by
      obtain ⟨d, digits, htext, hd, -⟩ := hinteger
      rw [htext, List.cons_append] at hcons
      obtain rfl := (List.cons.inj hcons).1
      exact hd
    rcases hcases with (hsign | hsign) | ⟨_, hquote, -⟩ | ⟨_, -, hindex, -⟩
    · exact absurd hsign (integerStart_ne hstart (by decide) (by decide))
    · exact absurd hsign (integerStart_ne hstart (by decide) (by decide))
    · exact absurd (by simpa using hquote) (integerStart_not_quote hstart)
    · rw [← hcons] at hindex
      exact fits_of_reads_index (.of_cons (by decide) behind) hindex

/-- What reads as segments has indices of 64 bits only. -/
theorem printable_of_readSegments {segments read : List Segment}
    (hsegments : ∀ s ∈ segments, (∃ i, s = .index i) ∨ s.Printable)
    (h : readSegments (segments.flatMap Layout.plain.segment) = .ok read) :
    ∀ s ∈ segments, s.Printable := by
  induction segments generalizing read with
  | nil => exact fun _ hmem => absurd hmem List.not_mem_nil
  | cons segment rest ih =>
    obtain ⟨hsegment, hrest⟩ := List.forall_mem_cons.1 hsegments
    obtain ⟨c, text, hcons⟩ : ∃ c text, Layout.plain.segment segment = c :: text := by
      cases segment <;> exact ⟨_, _, rfl⟩
    rw [List.flatMap_cons, hcons, List.cons_append] at h
    obtain ⟨_, after, _, hread, -, hothers, -⟩ := readSegments_cons h
    rw [← List.cons_append, ← hcons] at hread
    have hprintable : segment.Printable := by
      rcases hsegment with ⟨i, rfl⟩ | hprintable
      · rw [Layout.segment, List.cons_append, List.append_assoc] at hread
        exact fits_of_reads_segment hread
      · exact hprintable
    obtain ⟨-, rfl⟩ := hread.unique (reads_written_segment hprintable _)
    exact List.forall_mem_cons.2 ⟨hprintable, ih hrest hothers⟩

/-! ### Paths of locations -/

/-- The text of the segments leads to the values if all its indices are of 64 bits, and reads as no
path if one is not. -/
def Leads (segments : List Segment) (root : Json) (values : List Json) : Prop :=
  ((∀ s ∈ segments, s.Printable) →
    ∃ path, parse (String.ofList (Layout.plain.path segments)) = .ok path ∧
      path.query root = values) ∧
  ((∃ s ∈ segments, ¬ s.Printable) →
    ∃ e, parse (String.ofList (Layout.plain.path segments)) = .error e)

theorem leads_of_selectAll {segments : List Segment} {root : Json} {values : List Json}
    (hsegments : ∀ s ∈ segments, (∃ i, s = .index i) ∨ s.Printable)
    (h : selectAll segments [root] = values) : Leads segments root values := by
  have hpath : ∀ read, readSegments (segments.flatMap Layout.plain.segment) = read →
      readPath (String.ofList (Layout.plain.path segments)).toList = read := by
    intro read hread
    rw [String.toList_ofList]
    exact hread
  constructor
  · intro hprintable
    exact ⟨_, parse_of_readPath (hpath _ (readSegments_written hprintable)), h⟩
  · rintro ⟨s, hs, hlarge⟩
    cases hread : readSegments (segments.flatMap Layout.plain.segment) with
    | ok read => exact absurd (printable_of_readSegments hsegments hread s hs) hlarge
    | error e =>
      rw [parse]
      simp only [hpath _ hread]
      exact ⟨_, rfl⟩

/-- The text of a location leads to the one value that stands there, and so does every text that
counts positions of it from the end.  Where an array stands, an index past one of its ends leads
nowhere, whatever stands behind it. -/
theorem query_location {root v : Json} {l : Location} (h : root.at? l = some v) :
    ((∀ i, Link.item i ∈ l → i < 2 ^ 63) →
        ∃ path, parse (locationText l) = .ok path ∧ path.query root = [v]) ∧
      (∀ segments, Spells root l segments → Leads segments root [v]) ∧
      (∀ segments, Spells root l segments → ∀ items, v = .array items →
        ∀ index : Int, index < -items.length ∨ items.length ≤ index →
          ∀ later, (∀ s ∈ later, s.Printable) →
            Leads (segments ++ .index index :: later) root []) := by
  refine ⟨fun hpositions => ?_, fun segments hspells => ?_, ?_⟩
  · have hplain := spells_map_segmentOfLink h
    rw [locationText_eq]
    refine (leads_of_selectAll hplain.eq_index_or_printable (hplain.selectAll h)).1 ?_
    refine List.forall_mem_map.2 fun link hlink => ?_
    cases link with
    | member name => trivial
    | item i =>
      have hi := hpositions i hlink
      exact ⟨by omega, by omega⟩
  · exact leads_of_selectAll hspells.eq_index_or_printable (hspells.selectAll h)
  · rintro segments hspells items rfl index houtside later hlater
    refine leads_of_selectAll ?_ ?_
    · exact List.forall_mem_append.2 ⟨hspells.eq_index_or_printable,
        List.forall_mem_cons.2 ⟨.inl ⟨index, rfl⟩, fun s hs => .inr (hlater s hs)⟩⟩
    · rw [selectAll_append, hspells.selectAll h, Target.selectAll_cons,
        select_index_outside houtside, Target.selectAll_nil_values]

/-- A name with a quote, one that looks like a position and none at all, and an item counted from
the end; no item is third or third last of two. -/
theorem query_location_quoted :
    let items : List Json := [.null, .object [("[0]\\", .null), ("", .object [("0", .bool true)])]]
    let root : Json := .object [("it's", .array items)]
    let l : Location := [.member "it's", .item 1, .member "", .member "0"]
    let segments : List Segment := [.child "it's", .index (-1), .child "", .child "0"]
    root.at? l = some (.bool true) ∧ (∀ i, Link.item i ∈ l → i < 2 ^ 63) ∧
      locationText l = "$['it\\'s'][1]['']['0']" ∧
      (∃ path, parse "$['it\\'s'][1]['']['0']" = .ok path ∧ path.query root = [.bool true]) ∧
      Spells root l segments ∧ Leads segments root [.bool true] ∧
      root.at? [.member "it's"] = some (.array items) ∧
      Leads [.child "it's", .index 2, .wildcard] root [] ∧
      Leads [.child "it's", .index (-3)] root [] := by
  intro items root l segments
  have hat : root.at? l = some (.bool true) := rfl
  have hfront : root.at? [.member "it's"] = some (.array items) := rfl
  have hpositions : ∀ i, Link.item i ∈ l → i < 2 ^ 63 := by simp [l]
  have htext : locationText l = "$['it\\'s'][1]['']['0']" := by decide
  have hspells : Spells root l segments :=
    .link (.member _ _) rfl (.link (.itemFromEnd items 1) rfl
      (.link (.member _ _) rfl (.link (.member _ _) rfl (.root _))))
  have hname : Spells root [.member "it's"] [.child "it's"] :=
    .link (.member _ _) rfl (.root _)
  obtain ⟨hplain, hspelled, -⟩ := query_location hat
  obtain ⟨-, -, houtside⟩ := query_location hfront
  have hpath := hplain hpositions
  rw [htext] at hpath
  refine ⟨hat, hpositions, htext, hpath, hspells, hspelled _ hspells, hfront, ?_, ?_⟩
  · exact houtside _ hname items rfl 2 (.inr (by decide)) [.wildcard]
      (List.forall_mem_singleton.2 trivial)
  · exact houtside _ hname items rfl (-3) (.inl (by decide)) [] (by simp)

end Path

end TrackerTraffic
