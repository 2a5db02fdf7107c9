import TrackerTraffic.Proofs.PathRoundTrip
import TrackerTraffic.Proofs.QueryLocations

/-!
# Occurrences of a name

A descent to a name finds every member of that name, at whatever depth it stands: each of them
once, in the order of the objects that have it.  An occurrence hides none that stands inside it.
-/

namespace TrackerTraffic.Path

open Json (Link Location Spot)

variable {name : String}

/-- A name that spells no position leads to the member of that name, and nowhere in an array. -/
theorem visit_child (hname : Text.unsigned? name.toList = none) (v : Json) :
    (Segment.child name).visit v = (spotAt (some (.member name)) v).toList := by
  cases v with
  | array items =>
    rw [Segment.visit, linkNamed, hname]
    rfl
  | _ => rfl

theorem mem_spotAt {link : Link} {v w : Json} {l : Location} :
    (l, w) ∈ (spotAt (some link) v).toList ↔ l = [link] ∧ v.child? link = some w := by
  rw [Option.mem_toList, spotAt, Option.bind_some, Option.map_eq_some_iff]
  constructor
  · rintro ⟨x, hchild, heq⟩
    obtain ⟨rfl, rfl⟩ := Prod.mk.inj heq
    exact ⟨rfl, hchild⟩
  · rintro ⟨rfl, hchild⟩
    exact ⟨w, hchild, rfl⟩

variable {root : Json}

theorem mem_visit_descendant (h : root.WellFormed) (hname : Text.unsigned? name.toList = none)
    {l : Location} {w : Json} :
    (l, w) ∈ (Segment.descendant (.child name)).visit root ↔
      root.at? l = some w ∧ ∃ holder, l = holder ++ [.member name] := by
  rw [Segment.visit, Json.mem_onward]
  constructor
  · rintro ⟨holder, x, back, hholder, hback, rfl⟩
    rw [visit_child hname, mem_spotAt] at hback
    obtain ⟨rfl, hchild⟩ := hback
    refine ⟨?_, holder, rfl⟩
    rw [Json.at?_append, h.mem_spots_iff.1 hholder, Option.bind_some, Json.at?_singleton, hchild]
  · rintro ⟨hat, holder, rfl⟩
    rw [Json.at?_append, Option.bind_eq_some_iff] at hat
    obtain ⟨x, hholder, hchild⟩ := hat
    rw [Json.at?_singleton] at hchild
    refine ⟨holder, x, [.member name], h.mem_spots_iff.2 hholder, ?_, rfl⟩
    rw [visit_child hname]
    exact mem_spotAt.2 ⟨rfl, hchild⟩

/-- The objects that hold the occurrences stand in the order of the document. -/
theorem pairwise_visit_descendant (h : root.WellFormed)
    (hname : Text.unsigned? name.toList = none) :
    (((Segment.descendant (.child name)).visit root).map Prod.fst).Pairwise
      fun l m => root.Precedes l.dropLast m.dropLast := by
  have hholder : ∀ spot : Spot, ∀ l ∈ (((Segment.child name).visit spot.2).map
      (Spot.under spot.1)).map Prod.fst, l.dropLast = spot.1 := by
    intro spot l hl
    obtain ⟨_, hmem, rfl⟩ := List.mem_map.1 hl
    obtain ⟨⟨back, w⟩, hback, rfl⟩ := List.mem_map.1 hmem
    rw [visit_child hname, mem_spotAt] at hback
    obtain ⟨rfl, -⟩ := hback
    exact List.dropLast_concat
  rw [Segment.visit, Json.onward, List.map_flatMap, List.pairwise_flatMap]
  refine ⟨fun spot _ => ?_, ?_⟩
  · -- an object has one member of a name
    rw [visit_child hname]
    cases spotAt (some (.member name)) spot.2 with
    | none => exact List.Pairwise.nil
    | some found => exact List.pairwise_singleton _ _
  · refine (List.pairwise_map.1 h.pairwise_spots).imp fun hprecedes l hl m hm => ?_
    rw [hholder _ l hl, hholder _ m hm]
    exact hprecedes

/-- A descent to a name that is no position finds just the members of that name, wherever they
stand: no other value, each of them once, and in the order of the objects that hold them. -/
theorem query_occurrences (h : root.WellFormed) (hname : Text.unsigned? name.toList = none) :
    ∃ path, parse (String.ofList ("$..[".toList ++ quoted name ++ [']'])) = .ok path ∧
      ∃ found : List Location,
        found.map root.at? = (path.query root).map some ∧
        (∀ l, l ∈ found ↔ (root.at? l).isSome ∧ ∃ holder, l = holder ++ [.member name]) ∧
        found.Nodup ∧
        found.Pairwise fun l m => root.Precedes l.dropLast m.dropLast := by
  have htext : "$..[".toList ++ quoted name ++ [']'] =
      Layout.plain.path [.descendant (.child name)] := by
    simp [Layout.path, Layout.segment]
  have hread : readPath (Layout.plain.path [.descendant (.child name)]) =
      .ok [.descendant (.child name)] :=
    readSegments_written (List.forall_mem_singleton.2 ⟨trivial, rfl⟩)
  let path : Path := ⟨String.ofList ("$..[".toList ++ quoted name ++ [']']),
    [.descendant (.child name)]⟩
  have hvisit : path.locations root =
      ((Segment.descendant (.child name)).visit root).map Prod.fst := by
    rw [locations, visitAll_singleton]
  refine ⟨path, parse_of_readPath (by rw [String.toList_ofList, htext, hread]),
    path.locations root, map_at?_locations path h, fun l => ?_, ?_, ?_⟩
  · rw [hvisit, List.mem_map]
    constructor
    · rintro ⟨⟨_, w⟩, hspot, rfl⟩
      obtain ⟨hat, hholder⟩ := (mem_visit_descendant h hname).1 hspot
      exact ⟨Option.isSome_iff_exists.2 ⟨w, hat⟩, hholder⟩
    · rintro ⟨hsome, hholder⟩
      obtain ⟨w, hat⟩ := Option.isSome_iff_exists.1 hsome
      exact ⟨(l, w), (mem_visit_descendant h hname).2 ⟨hat, hholder⟩, rfl⟩
  · rw [hvisit]
    exact nodup_visit h (Nat.le_refl 1)
  · rw [hvisit]
    exact pairwise_visit_descendant h hname

/-- An occurrence inside another one, one inside an array, and a name with a quote. -/
theorem query_occurrences_nested :
    let name := "it's"
    let root : Json := .object [("1", .array [.object [(name, .null)]]),
      (name, .object [("b", .bool true), (name, .array [])])]
    let path : Path := ⟨"$..['it\\'s']", [.descendant (.child name)]⟩
    root.WellFormed ∧ Text.unsigned? name.toList = none ∧ parse path.source = .ok path ∧
      path.query root = [.object [("b", .bool true), (name, .array [])], .null, .array []] ∧
      ∃ found : List Location,
        found.map root.at? = (path.query root).map some ∧
        (∀ l, l ∈ found ↔ (root.at? l).isSome ∧ ∃ holder, l = holder ++ [.member name]) ∧
        found.Nodup ∧
        found.Pairwise fun l m => root.Precedes l.dropLast m.dropLast := by
  intro name root path
  have hroot : root.WellFormed := by
    simp [root, name, Json.WellFormed, Json.WellFormedItems, Json.WellFormedMembers]
  have hname : Text.unsigned? name.toList = none := by decide
  have hparse : parse path.source = .ok path := by cbv
  have htext : String.ofList ("$..[".toList ++ quoted name ++ [']']) = path.source := by decide
  obtain ⟨_, hread, hfound⟩ := query_occurrences hroot hname
  rw [htext] at hread
  obtain rfl := Except.ok.inj (hparse.symm.trans hread)
  exact ⟨hroot, hname, hparse, by cbv, hfound⟩

end TrackerTraffic.Path
