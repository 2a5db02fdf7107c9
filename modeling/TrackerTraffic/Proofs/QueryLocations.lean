import TrackerTraffic.Path.Query
import TrackerTraffic.Proofs.Locations
import TrackerTraffic.Proofs.Selection

/-!
# Where the values of a query stand

A query that notes the location of each value it finds.  A segment that does not descend finds
some of the children of a value, in their order, so without descents the values found stand at one
depth and in the order of the document.  A single descent finds no value twice either: it leaves
a location by as many links as there are segments behind it.
-/

namespace TrackerTraffic.Path

open Json (Link Location Spot)

/-! ### Links of segments -/

/-- What conditions take for the key of the child at a link. -/
def keyOfLink : Link → Json
  | .member name => .string name
  | .item i => .ofNat i

/-- The link that a name spells: in an array, a position. -/
def linkNamed (name : String) : Json → Option Link
  | .array _ => (Text.unsigned? name.toList).map .item
  | _ => some (.member name)

/-- The link that a position spells: outside arrays, a name. -/
def linkAt (position : Int) : Json → Option Link
  | .array items =>
    if position < 0 then
      if items.length < position.natAbs then none
      else some (.item (items.length - position.natAbs))
    else some (.item position.toNat)
  | _ => some (.member (toString position))

/-- The child at a link that was spelled, if there is one. -/
def spotAt (link : Option Link) (v : Json) : Option Spot :=
  link.bind fun link => (v.child? link).map fun w => ([link], w)

theorem childNamed_eq (name : String) (v : Json) :
    childNamed name v = (linkNamed name v).bind v.child? := by
  cases v with
  | array items =>
    rw [childNamed, linkNamed, Option.bind_map]
    rfl
  | _ => rfl

theorem childAt_eq (position : Int) (v : Json) :
    childAt position v = (linkAt position v).bind v.child? := by
  cases v with
  | array items =>
    rw [childAt, itemAt?, linkAt]
    split
    · split <;> rfl
    · rfl
  | _ => rfl

theorem keyedChildren_eq (v : Json) :
    keyedChildren v = v.children.map fun child => (keyOfLink child.1, child.2) := by
  cases v with
  | array items =>
    rw [keyedChildren, keyedItems, Json.children, List.map_map]
    rfl
  | object members =>
    rw [keyedChildren, keyedMembers, Json.children, List.map_map]
    rfl
  | _ => rfl

/-! ### A query with locations -/

/-- What a segment finds, with its locations. -/
def Segment.visit : Segment → Json → List Spot
  | .child name, v => (spotAt (linkNamed name v) v).toList
  | .index position, v => (spotAt (linkAt position v) v).toList
  | .wildcard, v => v.children.map Spot.ofChild
  | .filter condition, v =>
    (v.children.filter fun child => condition.holds child.2 (keyOfLink child.1)).map Spot.ofChild
  | .descendant inner, v => Json.onward inner.visit v.spots

/-- What segments find one behind the other, with its locations. -/
def visitAll : List Segment → Json → List Spot
  | [], v => [([], v)]
  | segment :: rest, v => Json.onward (visitAll rest) (segment.visit v)

theorem visitAll_singleton (segment : Segment) (root : Json) :
    visitAll [segment] root = segment.visit root := by
  have hsame : ∀ spot : Spot, (visitAll [] spot.2).map (Spot.under spot.1) = [spot] := by
    intro spot
    rw [visitAll, List.map_singleton, Spot.under, List.append_nil]
  rw [visitAll, Json.onward, List.flatMap_congr fun spot _ => hsame spot, List.flatMap_singleton']

/-- The locations of the values that a path leads to, in the order of the values. -/
def locations (path : Path) (root : Json) : List Location :=
  (visitAll path.segments root).map Prod.fst

theorem map_snd_under (l : Location) (found : List Spot) :
    (found.map (Spot.under l)).map Prod.snd = found.map Prod.snd := by
  rw [List.map_map]
  rfl

mutual
/-- The values of all spots are the value and everything inside it. -/
theorem map_snd_spots (v : Json) : v.spots.map Prod.snd = descendants v := by
  cases v with
  | array items => rw [Json.spots, descendants, List.map_cons, map_snd_itemSpots 0 items]
  | object members => rw [Json.spots, descendants, List.map_cons, map_snd_memberSpots members]
  | _ => rfl

theorem map_snd_itemSpots (position : Nat) (items : List Json) :
    (Json.itemSpots position items).map Prod.snd = itemDescendants items := by
  cases items with
  | nil => rfl
  | cons v rest =>
    rw [Json.itemSpots, itemDescendants, List.map_append, map_snd_under, map_snd_spots v,
      map_snd_itemSpots (position + 1) rest]

theorem map_snd_memberSpots (members : Json.Members) :
    (Json.memberSpots members).map Prod.snd = memberDescendants members := by
  cases members with
  | nil => rfl
  | cons member rest =>
    rw [Json.memberSpots, memberDescendants, List.map_append, map_snd_under,
      map_snd_spots member.2, map_snd_memberSpots rest]
end

theorem map_snd_spotAt (link : Option Link) (v : Json) :
    (spotAt link v).toList.map Prod.snd = (link.bind v.child?).toList := by
  cases link with
  | none => rfl
  | some link =>
    rw [spotAt, Option.bind_some, Option.bind_some]
    cases v.child? link <;> rfl

/-- The visited values are those that the segment leads to. -/
theorem map_snd_visit (segment : Segment) (v : Json) :
    (segment.visit v).map Prod.snd = segment.select v := by
  induction segment generalizing v with
  | child name => rw [Segment.visit, Segment.select, map_snd_spotAt, childNamed_eq]
  | index position => rw [Segment.visit, Segment.select, map_snd_spotAt, childAt_eq]
  | wildcard =>
    rw [Segment.visit, Segment.select, keyedChildren_eq, List.map_map, List.map_map]
    rfl
  | filter condition =>
    rw [Segment.visit, Segment.select, keyedChildren_eq, List.map_map, List.filter_map,
      List.map_map]
    rfl
  | descendant inner ih =>
    rw [Segment.visit, Segment.select, Json.map_snd_onward, map_snd_spots]
    exact List.flatMap_congr fun w _ => ih w

theorem map_snd_visitAll (segments : List Segment) (root : Json) :
    (visitAll segments root).map Prod.snd = selectAll segments [root] := by
  induction segments generalizing root with
  | nil => rfl
  | cons segment rest ih =>
    rw [visitAll, Json.map_snd_onward, map_snd_visit, Target.selectAll_cons, selectAll_eq_flatMap]
    exact List.flatMap_congr fun w _ => ih w

/-! ### Segments that do not descend -/

/-- The number of descents in a segment. -/
def Segment.descents : Segment → Nat
  | .descendant inner => inner.descents + 1
  | _ => 0

/-- The number of descents in a path. -/
def descents (path : Path) : Nat := (path.segments.map Segment.descents).sum

variable {root : Json}

theorem exists_picked_of_spotAt (h : root.WellFormed) (link : Option Link) :
    ∃ picked : List (Link × Json), picked.Sublist root.children ∧
      (spotAt link root).toList = picked.map Spot.ofChild := by
  cases hspot : spotAt link root with
  | none => exact ⟨[], List.nil_sublist _, rfl⟩
  | some spot =>
    obtain ⟨a, -, hspot⟩ := Option.bind_eq_some_iff.1 hspot
    obtain ⟨w, hchild, rfl⟩ := Option.map_eq_some_iff.1 hspot
    exact ⟨[(a, w)], List.singleton_sublist.2 (h.mem_children_iff.2 hchild), rfl⟩

/-- A segment that does not descend finds some of the children, in their order. -/
theorem exists_picked (h : root.WellFormed) {segment : Segment} (hdescents : segment.descents = 0) :
    ∃ picked : List (Link × Json), picked.Sublist root.children ∧
      segment.visit root = picked.map Spot.ofChild := by
  cases segment with
  | child name => exact exists_picked_of_spotAt h _
  | index position => exact exists_picked_of_spotAt h _
  | wildcard => exact ⟨_, List.Sublist.refl _, rfl⟩
  | filter condition => exact ⟨_, List.filter_sublist, rfl⟩
  | descendant inner => exact absurd hdescents (Nat.succ_ne_zero _)

/-! ### Found values stand at their locations -/

theorem at?_of_mem_onward {next : Json → List Spot} {found : List Spot}
    (hfound : ∀ l w, (l, w) ∈ found → root.at? l = some w)
    (hnext : ∀ front x, root.at? front = some x → ∀ l w, (l, w) ∈ next x → x.at? l = some w)
    {l : Location} {w : Json} (h : (l, w) ∈ Json.onward next found) : root.at? l = some w := by
  obtain ⟨front, x, back, hmem, hspot, rfl⟩ := Json.mem_onward.1 h
  have hfront := hfound front x hmem
  rw [Json.at?_append, hfront, Option.bind_some]
  exact hnext front x hfront back w hspot

theorem at?_of_mem_visit_children (h : root.WellFormed) {segment : Segment}
    (hdescents : segment.descents = 0) {l : Location} {w : Json}
    (hmem : (l, w) ∈ segment.visit root) : root.at? l = some w := by
  obtain ⟨picked, hpicked, hvisit⟩ := exists_picked h hdescents
  rw [hvisit] at hmem
  obtain ⟨⟨link, _⟩, hchild, heq⟩ := List.mem_map.1 hmem
  obtain ⟨rfl, rfl⟩ := Prod.mk.inj heq
  rw [Json.at?_singleton]
  exact h.mem_children_iff.1 (hpicked.subset hchild)

theorem at?_of_mem_visit (h : root.WellFormed) {segment : Segment} {l : Location} {w : Json}
    (hmem : (l, w) ∈ segment.visit root) : root.at? l = some w := by
  induction segment generalizing root l w with
  | descendant inner ih =>
    refine at?_of_mem_onward (fun _ _ => h.mem_spots_iff.1) (fun front x hfront => ?_) hmem
    exact fun _ _ => ih (h.of_at? hfront)
  | _ => exact at?_of_mem_visit_children h (by rfl) hmem

theorem at?_of_mem_visitAll (h : root.WellFormed) {segments : List Segment} {l : Location}
    {w : Json} (hmem : (l, w) ∈ visitAll segments root) : root.at? l = some w := by
  induction segments generalizing root l w with
  | nil =>
    obtain ⟨rfl, rfl⟩ := Prod.mk.inj (List.mem_singleton.1 hmem)
    rfl
  | cons segment rest ih =>
    refine at?_of_mem_onward (fun _ _ => at?_of_mem_visit h) (fun front x hfront => ?_) hmem
    exact fun _ _ => ih (h.of_at? hfront)

/-- At the locations of a path stand the values that it leads to. -/
theorem map_at?_locations (path : Path) (h : root.WellFormed) :
    (path.locations root).map root.at? = (path.query root).map some := by
  rw [locations, query, ← map_snd_visitAll, List.map_map, List.map_map]
  exact List.map_congr_left fun spot hspot => at?_of_mem_visitAll h hspot

/-! ### Depth and order -/

theorem length_of_mem_visitAll {segments : List Segment} (h : root.WellFormed)
    (hdescents : ∀ segment ∈ segments, segment.descents = 0) {l : Location} {w : Json}
    (hmem : (l, w) ∈ visitAll segments root) : l.length = segments.length := by
  induction segments generalizing root l w with
  | nil =>
    obtain ⟨rfl, -⟩ := Prod.mk.inj (List.mem_singleton.1 hmem)
    rfl
  | cons segment rest ih =>
    obtain ⟨hsegment, hrest⟩ := List.forall_mem_cons.1 hdescents
    obtain ⟨picked, hpicked, hvisit⟩ := exists_picked h hsegment
    rw [visitAll, hvisit] at hmem
    obtain ⟨link, x, later, hchild, hlater, rfl⟩ := Json.mem_onward_children.1 hmem
    have hx := h.of_mem_children (hpicked.subset hchild)
    rw [List.length_cons, List.length_cons, ih hx hrest hlater]

/-- Without descents what is found stands in the order of the document. -/
theorem pairwise_visitAll {segments : List Segment} (h : root.WellFormed)
    (hdescents : ∀ segment ∈ segments, segment.descents = 0) :
    ((visitAll segments root).map Prod.fst).Pairwise root.Precedes := by
  induction segments generalizing root with
  | nil => exact List.pairwise_singleton _ _
  | cons segment rest ih =>
    obtain ⟨hsegment, hrest⟩ := List.forall_mem_cons.1 hdescents
    obtain ⟨picked, hpicked, hvisit⟩ := exists_picked h hsegment
    rw [visitAll, hvisit]
    refine Json.pairwise_onward h hpicked fun child hchild => ?_
    exact ih (h.of_mem_children (hpicked.subset hchild)) hrest

/-! ### One descent -/

theorem nodup_picked (h : root.WellFormed) {picked : List (Link × Json)}
    (hpicked : picked.Sublist root.children) :
    ((picked.map Spot.ofChild).map Prod.fst).Nodup := by
  have hlinks : (picked.map Spot.ofChild).map Prod.fst = (picked.map Prod.fst).map ([·]) := by
    rw [List.map_map, List.map_map]
    rfl
  rw [hlinks]
  exact (h.nodup_links.sublist (hpicked.map Prod.fst)).map List.singleton_injective

theorem length_of_mem_picked {picked : List (Link × Json)} {l : Location}
    (hmem : l ∈ (picked.map Spot.ofChild).map Prod.fst) : l.length = 1 := by
  obtain ⟨_, hspot, rfl⟩ := List.mem_map.1 hmem
  obtain ⟨_, -, rfl⟩ := List.mem_map.1 hspot
  rfl

theorem nodup_visit (h : root.WellFormed) {segment : Segment} (hdescents : segment.descents ≤ 1) :
    ((segment.visit root).map Prod.fst).Nodup := by
  by_cases hzero : segment.descents = 0
  · obtain ⟨picked, hpicked, hvisit⟩ := exists_picked h hzero
    rw [hvisit]
    exact nodup_picked h hpicked
  · cases segment with
    | descendant inner =>
      have hinner : inner.descents = 0 := Nat.le_zero.1 (Nat.le_of_succ_le_succ hdescents)
      have hvisit : ∀ spot ∈ root.spots, ∃ picked : List (Link × Json),
          picked.Sublist spot.2.children ∧ inner.visit spot.2 = picked.map Spot.ofChild :=
        fun spot hspot => exists_picked (h.of_at? (h.mem_spots_iff.1 hspot)) hinner
      refine Json.nodup_onward (Json.nodup_of_precedes h h.pairwise_spots)
        (fun spot hspot => ?_) (fun spot hspot other hother l hl m hm heq => ?_)
      · obtain ⟨picked, hpicked, heq⟩ := hvisit spot hspot
        rw [heq]
        exact nodup_picked (h.of_at? (h.mem_spots_iff.1 hspot)) hpicked
      · obtain ⟨_, -, hfirst⟩ := hvisit spot hspot
        obtain ⟨_, -, hsecond⟩ := hvisit other hother
        rw [hfirst] at hl
        rw [hsecond] at hm
        have hlength := (length_of_mem_picked hl).trans (length_of_mem_picked hm).symm
        exact List.append_inj_left' heq hlength
    | _ => exact absurd rfl hzero

/-- A path with one descent at most finds no value twice. -/
theorem nodup_visitAll (h : root.WellFormed) {segments : List Segment}
    (hdescents : (segments.map Segment.descents).sum ≤ 1) :
    ((visitAll segments root).map Prod.fst).Nodup := by
  induction segments generalizing root with
  | nil => exact List.nodup_singleton _
  | cons segment rest ih =>
    rw [List.map_cons, List.sum_cons] at hdescents
    have hwell : ∀ spot ∈ segment.visit root, spot.2.WellFormed :=
      fun spot hspot => h.of_at? (at?_of_mem_visit h hspot)
    refine Json.nodup_onward (nodup_visit h (by omega))
      (fun spot hspot => ih (hwell spot hspot) (by omega))
      (fun spot hspot other hother l hl m hm heq => ?_)
    -- either the segment adds one link, or those behind it add one link each
    by_cases hzero : segment.descents = 0
    · obtain ⟨picked, -, hvisit⟩ := exists_picked h hzero
      rw [hvisit] at hspot hother
      have hlength : spot.1.length = other.1.length :=
        (length_of_mem_picked (List.mem_map_of_mem hspot)).trans
          (length_of_mem_picked (List.mem_map_of_mem hother)).symm
      exact List.append_inj_left heq hlength
    · have hrest : ∀ later ∈ rest, later.descents = 0 := by
        have hsum : (rest.map Segment.descents).sum = 0 := by omega
        exact fun later hlater => List.sum_eq_zero_iff.1 hsum _ (List.mem_map_of_mem hlater)
      obtain ⟨_, hleft, rfl⟩ := List.mem_map.1 hl
      obtain ⟨_, hright, rfl⟩ := List.mem_map.1 hm
      have hlength := (length_of_mem_visitAll (hwell spot hspot) hrest hleft).trans
        (length_of_mem_visitAll (hwell other hother) hrest hright).symm
      exact List.append_inj_left' heq hlength

/-- The locations of a path in a value: at each stands the value found there.  Without descents
they are as deep as the path is long and ascend in the order of the document, so that no value is
found twice; and none is with one descent, wherever in the path it stands. -/
theorem locations_distinct (path : Path) {root : Json} (h : root.WellFormed) :
    (path.locations root).map root.at? = (path.query root).map some ∧
      (path.descents = 0 →
        (∀ l ∈ path.locations root, l.length = path.segments.length) ∧
          (path.locations root).Pairwise root.Precedes ∧ (path.locations root).Nodup) ∧
      (path.descents ≤ 1 → (path.locations root).Nodup) := by
  refine ⟨map_at?_locations path h, fun hnone => ?_, fun hone => nodup_visitAll h hone⟩
  have hdescents : ∀ segment ∈ path.segments, segment.descents = 0 :=
    fun segment hmem => List.sum_eq_zero_iff.1 hnone _ (List.mem_map_of_mem hmem)
  have hordered := pairwise_visitAll h hdescents
  refine ⟨fun l hl => ?_, hordered, Json.nodup_of_precedes h hordered⟩
  obtain ⟨_, hspot, rfl⟩ := List.mem_map.1 hl
  exact length_of_mem_visitAll h hdescents hspot

/-- Items of equal arrays at three places, found by a descent and an index from the end. -/
theorem locations_distinct_nested :
    let inner : Json := .object [("k", .array [.null])]
    let root : Json := .object [("k", .array [inner, .string "x"]), ("1", inner)]
    let descent : Path := ⟨"$..k[-1]", [.descendant (.child "k"), .index (-1)]⟩
    let plain : Path := ⟨"$.*[0]", [.wildcard, .index 0]⟩
    root.WellFormed ∧ descent.descents = 1 ∧ plain.descents = 0 ∧
      descent.locations root = [[.member "k", .item 1],
        [.member "k", .item 0, .member "k", .item 0], [.member "1", .member "k", .item 0]] ∧
      plain.locations root = [[.member "k", .item 0]] ∧
      (descent.locations root).map root.at? = (descent.query root).map some ∧
      (descent.locations root).Nodup ∧
      (plain.locations root).Pairwise root.Precedes := by
  intro inner root descent plain
  have hroot : root.WellFormed := by
    simp [root, inner, Json.WellFormed, Json.WellFormedItems, Json.WellFormedMembers]
  obtain ⟨hvalues, -, hdistinct⟩ := locations_distinct descent hroot
  obtain ⟨-, hordered, -⟩ := locations_distinct plain hroot
  exact ⟨hroot, rfl, rfl, by cbv, by cbv, hvalues, hdistinct (Nat.le_refl 1), (hordered rfl).2.1⟩

end TrackerTraffic.Path
