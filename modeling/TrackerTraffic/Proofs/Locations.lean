import TrackerTraffic.Proofs.MemberOrder

/-!
# Locations in values

A location leads from a value to a value inside it, by the names of members and the positions of
items.  The locations of a value have an order, that of the document: a value stands in front of
what it contains, and everything in a child in front of everything in a later one.
-/

namespace TrackerTraffic.Json

/-- How a child hangs in its container: as the member of a name or the item at a position. -/
inductive Link where
  | member (name : String)
  | item (position : Nat)
deriving DecidableEq

/-- The links from a value down to a value inside it. -/
abbrev Location := List Link

/-- A location and the value there. -/
abbrev Spot := Location × Json

/-! ### Children -/

def child? : Json → Link → Option Json
  | .object members, .member name => lookup name members
  | .array items, .item i => items[i]?
  | _, _ => none

/-- The value at a location. -/
def at? : Json → Location → Option Json
  | v, [] => some v
  | v, link :: rest => (v.child? link).bind (·.at? rest)

/-- The children of a value with their links, in order. -/
def children : Json → List (Link × Json)
  | .array items => items.zipIdx.map fun entry => (.item entry.2, entry.1)
  | .object members => members.map fun member => (.member member.1, member.2)
  | _ => []

theorem at?_cons (v : Json) (link : Link) (l : Location) :
    v.at? (link :: l) = (v.child? link).bind (·.at? l) :=
  rfl

theorem at?_append (v : Json) (front back : Location) :
    v.at? (front ++ back) = (v.at? front).bind (·.at? back) := by
  induction front generalizing v with
  | nil => rfl
  | cons link rest ih =>
    rw [List.cons_append, at?_cons, at?_cons, Option.bind_assoc]
    exact congrArg _ (funext ih)

theorem at?_singleton (v : Json) (link : Link) : v.at? [link] = v.child? link := by
  rw [at?_cons]
  exact Option.bind_fun_some _

theorem at?_of_child? {v w : Json} {link : Link} (h : v.child? link = some w) (l : Location) :
    v.at? (link :: l) = w.at? l := by
  rw [at?_cons, h, Option.bind_some]

/-! ### Distinct names -/

theorem wellFormedItems_iff {items : List Json} :
    WellFormedItems items ↔ ∀ v ∈ items, v.WellFormed := by
  induction items with
  | nil => simp [WellFormedItems]
  | cons v rest ih => rw [WellFormedItems, ih, List.forall_mem_cons]

theorem wellFormedMembers_iff {members : Members} :
    WellFormedMembers members ↔ ∀ member ∈ members, member.2.WellFormed := by
  induction members with
  | nil => simp [WellFormedMembers]
  | cons member rest ih => rw [WellFormedMembers, ih, List.forall_mem_cons]

theorem mem_children_array {items : List Json} {link : Link} {w : Json} :
    (link, w) ∈ (Json.array items).children ↔ ∃ i, link = .item i ∧ items[i]? = some w := by
  rw [children, List.mem_map]
  constructor
  · rintro ⟨⟨_, i⟩, hmem, heq⟩
    obtain ⟨rfl, rfl⟩ := Prod.mk.inj heq
    exact ⟨i, rfl, List.mem_zipIdx_iff_getElem?.1 hmem⟩
  · rintro ⟨i, rfl, hitem⟩
    exact ⟨(w, i), List.mem_zipIdx_iff_getElem?.2 hitem, rfl⟩

theorem mem_children_object {members : Members} {link : Link} {w : Json} :
    (link, w) ∈ (Json.object members).children ↔ ∃ name, link = .member name ∧
      (name, w) ∈ members := by
  rw [children, List.mem_map]
  constructor
  · rintro ⟨⟨name, _⟩, hmem, heq⟩
    obtain ⟨rfl, rfl⟩ := Prod.mk.inj heq
    exact ⟨name, rfl, hmem⟩
  · rintro ⟨name, rfl, hmem⟩
    exact ⟨(name, w), hmem, rfl⟩

variable {v w : Json}

theorem WellFormed.of_mem_children (h : v.WellFormed) {link : Link}
    (hmem : (link, w) ∈ v.children) : w.WellFormed := by
  cases v with
  | array items =>
    obtain ⟨i, -, hitem⟩ := mem_children_array.1 hmem
    exact wellFormedItems_iff.1 h w (List.mem_of_getElem? hitem)
  | object members =>
    obtain ⟨name, -, hmember⟩ := mem_children_object.1 hmem
    exact wellFormedMembers_iff.1 h.2 (name, w) hmember
  | _ => exact absurd hmem List.not_mem_nil

/-- If names are distinct, the children are what stands at the links. -/
theorem WellFormed.mem_children_iff (h : v.WellFormed) {link : Link} :
    (link, w) ∈ v.children ↔ v.child? link = some w := by
  cases v with
  | array items =>
    rw [mem_children_array]
    constructor
    · rintro ⟨i, rfl, hitem⟩
      exact hitem
    · intro hchild
      cases link with
      | member name => cases hchild
      | item i => exact ⟨i, rfl, hchild⟩
  | object members =>
    rw [mem_children_object]
    constructor
    · rintro ⟨name, rfl, hmember⟩
      exact (lookup_eq_some_iff h.1).2 hmember
    · intro hchild
      cases link with
      | member name => exact ⟨name, rfl, (lookup_eq_some_iff h.1).1 hchild⟩
      | item i => cases hchild
  | _ => cases link <;> simp [children, child?]

theorem WellFormed.of_child? (h : v.WellFormed) {link : Link} (hchild : v.child? link = some w) :
    w.WellFormed :=
  h.of_mem_children (h.mem_children_iff.2 hchild)

theorem WellFormed.of_at? (h : v.WellFormed) {l : Location} (hat : v.at? l = some w) :
    w.WellFormed := by
  induction l generalizing v with
  | nil =>
    obtain rfl := Option.some.inj hat
    exact h
  | cons link rest ih =>
    obtain ⟨x, hchild, hrest⟩ := Option.bind_eq_some_iff.1 hat
    exact ih (h.of_child? hchild) hrest

theorem WellFormed.nodup_links (h : v.WellFormed) : (v.children.map Prod.fst).Nodup := by
  cases v with
  | array items =>
    have hlinks : (Json.array items).children.map Prod.fst =
        (items.zipIdx.map Prod.snd).map .item := by
      rw [children, List.map_map, List.map_map]
      rfl
    rw [hlinks, List.zipIdx_map_snd]
    exact List.Nodup.map (fun i j heq => Link.item.inj heq) List.nodup_range'
  | object members =>
    have hlinks : (Json.object members).children.map Prod.fst =
        (members.map Prod.fst).map .member := by
      rw [children, List.map_map, List.map_map]
      rfl
    rw [hlinks]
    exact h.1.map fun m n heq => Link.member.inj heq
  | _ => exact List.nodup_nil

/-! ### The order of the document -/

/-- Among the children of the value the one link stands in front of the other. -/
def Earlier (v : Json) (a b : Link) : Prop := [a, b].Sublist (v.children.map Prod.fst)

/-- In the value the one location stands in front of the other. -/
inductive Precedes : Json → Location → Location → Prop where
  | above (v : Json) (link : Link) (l : Location) : Precedes v [] (link :: l)
  | beside {v : Json} {a b : Link} (h : v.Earlier a b) (l m : Location) :
      Precedes v (a :: l) (b :: m)
  | inside {v w : Json} {link : Link} (hchild : v.child? link = some w) {l m : Location}
      (h : Precedes w l m) : Precedes v (link :: l) (link :: m)

theorem Earlier.ne (h : v.WellFormed) {a b : Link} (hearlier : v.Earlier a b) : a ≠ b := by
  have hnodup : [a, b].Nodup := h.nodup_links.sublist hearlier
  simpa using hnodup

theorem Precedes.ne (h : v.WellFormed) {l m : Location} (hprecedes : v.Precedes l m) : l ≠ m := by
  induction hprecedes with
  | above v link l => exact (List.cons_ne_nil link l).symm
  | beside hearlier l m => exact fun heq => hearlier.ne h (List.cons.inj heq).1
  | inside hchild _ ih => exact fun heq => ih (h.of_child? hchild) (List.cons.inj heq).2

theorem nodup_of_precedes (h : v.WellFormed) {locations : List Location}
    (hordered : locations.Pairwise v.Precedes) : locations.Nodup :=
  hordered.imp fun hprecedes => hprecedes.ne h

theorem pairwise_earlier {links : List Link} (h : links.Sublist (v.children.map Prod.fst)) :
    links.Pairwise v.Earlier :=
  List.pairwise_iff_forall_sublist.2 fun hpair => hpair.trans h

/-! ### Spots below spots -/

/-- The spot of a value inside the value at a location. -/
def Spot.under (l : Location) (spot : Spot) : Spot := (l ++ spot.1, spot.2)

/-- A child as a spot of its container. -/
def Spot.ofChild (child : Link × Json) : Spot := ([child.1], child.2)

/-- What the next step finds in the values of spots, spot by spot. -/
def onward (next : Json → List Spot) (found : List Spot) : List Spot :=
  found.flatMap fun spot => (next spot.2).map (Spot.under spot.1)

variable {next : Json → List Spot} {found : List Spot}

theorem mem_onward {l : Location} :
    (l, w) ∈ onward next found ↔
      ∃ front x back, (front, x) ∈ found ∧ (back, w) ∈ next x ∧ l = front ++ back := by
  rw [onward, List.mem_flatMap]
  constructor
  · rintro ⟨⟨front, x⟩, hfound, hspot⟩
    obtain ⟨⟨back, _⟩, hnext, heq⟩ := List.mem_map.1 hspot
    obtain ⟨rfl, rfl⟩ := Prod.mk.inj heq
    exact ⟨front, x, back, hfound, hnext, rfl⟩
  · rintro ⟨front, x, back, hfound, hnext, rfl⟩
    exact ⟨(front, x), hfound, List.mem_map.2 ⟨(back, w), hnext, rfl⟩⟩

/-- What lies below children starts with the link of one of them. -/
theorem mem_onward_children {picked : List (Link × Json)} {l : Location} :
    (l, w) ∈ onward next (picked.map Spot.ofChild) ↔
      ∃ link x rest, (link, x) ∈ picked ∧ (rest, w) ∈ next x ∧ l = link :: rest := by
  rw [mem_onward]
  constructor
  · rintro ⟨_, _, rest, hpicked, hnext, rfl⟩
    obtain ⟨⟨link, x⟩, hmem, heq⟩ := List.mem_map.1 hpicked
    obtain ⟨rfl, rfl⟩ := Prod.mk.inj heq
    exact ⟨link, x, rest, hmem, hnext, rfl⟩
  · rintro ⟨link, x, rest, hmem, hnext, rfl⟩
    exact ⟨[link], x, rest, List.mem_map.2 ⟨_, hmem, rfl⟩, hnext, rfl⟩

theorem map_snd_onward (next : Json → List Spot) (found : List Spot) :
    (onward next found).map Prod.snd =
      (found.map Prod.snd).flatMap fun x => (next x).map Prod.snd := by
  rw [onward, List.map_flatMap, List.flatMap_map]
  refine List.flatMap_congr fun spot _ => ?_
  rw [List.map_map]
  rfl

/-- Spots below some children of a value stand in the order of the children, and those below one
child as they stand in it. -/
theorem pairwise_onward {picked : List (Link × Json)} (h : v.WellFormed)
    (hpicked : picked.Sublist v.children)
    (hnext : ∀ child ∈ picked, ((next child.2).map Prod.fst).Pairwise child.2.Precedes) :
    ((onward next (picked.map Spot.ofChild)).map Prod.fst).Pairwise v.Precedes := by
  rw [onward, List.flatMap_map, List.map_flatMap, List.pairwise_flatMap]
  refine ⟨fun child hmem => ?_, ?_⟩
  · have hchild := h.mem_children_iff.1 (hpicked.subset hmem)
    rw [List.map_map, List.pairwise_map]
    exact (List.pairwise_map.1 (hnext child hmem)).imp fun hprecedes => .inside hchild hprecedes
  · have hlinks := List.pairwise_map.1 (pairwise_earlier (hpicked.map Prod.fst))
    refine hlinks.imp fun hearlier l hl m hm => ?_
    obtain ⟨_, hspot, rfl⟩ := List.mem_map.1 hl
    obtain ⟨_, -, rfl⟩ := List.mem_map.1 hspot
    obtain ⟨_, hspot, rfl⟩ := List.mem_map.1 hm
    obtain ⟨_, -, rfl⟩ := List.mem_map.1 hspot
    exact .beside hearlier _ _

/-- Distinct spots lead on to distinct ones, if a location shows at which of them it was left. -/
theorem nodup_onward (hfound : (found.map Prod.fst).Nodup)
    (hnext : ∀ spot ∈ found, ((next spot.2).map Prod.fst).Nodup)
    (hcut : ∀ spot ∈ found, ∀ other ∈ found, ∀ l ∈ (next spot.2).map Prod.fst,
      ∀ m ∈ (next other.2).map Prod.fst, spot.1 ++ l = other.1 ++ m → spot.1 = other.1) :
    ((onward next found).map Prod.fst).Nodup := by
  rw [onward, List.map_flatMap, List.nodup_iff_pairwise_ne, List.pairwise_flatMap]
  refine ⟨fun spot hspot => ?_, ?_⟩
  · rw [List.map_map, List.pairwise_map]
    refine (List.pairwise_map.1 (hnext spot hspot)).imp fun hne heq => hne ?_
    exact List.append_cancel_left heq
  · refine (List.pairwise_map.1 hfound).imp_of_mem fun hspot hother hne l hl m hm heq => hne ?_
    obtain ⟨_, hmem, rfl⟩ := List.mem_map.1 hl
    obtain ⟨first, hfirst, rfl⟩ := List.mem_map.1 hmem
    obtain ⟨_, hmem, rfl⟩ := List.mem_map.1 hm
    obtain ⟨second, hsecond, rfl⟩ := List.mem_map.1 hmem
    exact hcut _ hspot _ hother _ (List.mem_map.2 ⟨first, hfirst, rfl⟩) _
      (List.mem_map.2 ⟨second, hsecond, rfl⟩) heq

/-! ### All locations -/

mutual
/-- Every location of a value with what stands there, in the order of the document. -/
def spots : Json → List Spot
  | .array items => ([], .array items) :: itemSpots 0 items
  | .object members => ([], .object members) :: memberSpots members
  | v => [([], v)]

/-- The spots of items from a position on. -/
def itemSpots (position : Nat) : List Json → List Spot
  | [] => []
  | v :: rest => v.spots.map (Spot.under [.item position]) ++ itemSpots (position + 1) rest

def memberSpots : Members → List Spot
  | [] => []
  | (name, v) :: rest => v.spots.map (Spot.under [.member name]) ++ memberSpots rest
end

theorem itemSpots_eq (position : Nat) (items : List Json) :
    itemSpots position items = (items.zipIdx position).flatMap
      fun entry => entry.1.spots.map (Spot.under [.item entry.2]) := by
  induction items generalizing position with
  | nil => rfl
  | cons v rest ih => rw [itemSpots, ih, List.zipIdx_cons, List.flatMap_cons]

theorem memberSpots_eq (members : Members) :
    memberSpots members = members.flatMap fun member =>
      member.2.spots.map (Spot.under [.member member.1]) := by
  induction members with
  | nil => rfl
  | cons member rest ih => rw [memberSpots, ih, List.flatMap_cons]

/-- The spots of a value are its own and those of its children. -/
theorem spots_eq (v : Json) :
    v.spots = ([], v) :: onward spots (v.children.map Spot.ofChild) := by
  cases v with
  | array items =>
    rw [spots, itemSpots_eq, children, onward, List.map_map, List.flatMap_map]
    rfl
  | object members =>
    rw [spots, memberSpots_eq, children, onward, List.map_map, List.flatMap_map]
    rfl
  | _ => rfl

theorem sizeOf_lt_of_mem_children {link : Link} (h : (link, w) ∈ v.children) :
    sizeOf w < sizeOf v := by
  cases v with
  | array items =>
    obtain ⟨i, -, hitem⟩ := mem_children_array.1 h
    have hsize := List.sizeOf_lt_of_mem (List.mem_of_getElem? hitem)
    rw [Json.array.sizeOf_spec]
    omega
  | object members =>
    obtain ⟨name, -, hmember⟩ := mem_children_object.1 h
    have hsize := List.sizeOf_lt_of_mem hmember
    rw [Prod.mk.sizeOf_spec] at hsize
    rw [Json.object.sizeOf_spec]
    omega
  | _ => exact absurd h List.not_mem_nil

/-- The spots are just the locations with a value, each with that value. -/
theorem WellFormed.mem_spots_iff (h : v.WellFormed) {l : Location} :
    (l, w) ∈ v.spots ↔ v.at? l = some w := by
  induction l generalizing v with
  | nil =>
    rw [spots_eq, at?, List.mem_cons, mem_onward_children]
    constructor
    · rintro (heq | ⟨_, _, _, -, -, hcons⟩)
      · rw [(Prod.mk.inj heq).2]
      · exact absurd hcons.symm (List.cons_ne_nil _ _)
    · intro heq
      exact .inl (by rw [Option.some.inj heq])
  | cons link rest ih =>
    rw [spots_eq, at?_cons, List.mem_cons, mem_onward_children, Option.bind_eq_some_iff]
    constructor
    · rintro (heq | ⟨_, x, _, hmem, hspot, hcons⟩)
      · exact absurd (Prod.mk.inj heq).1 (List.cons_ne_nil _ _)
      · obtain ⟨rfl, rfl⟩ := List.cons.inj hcons
        exact ⟨x, h.mem_children_iff.1 hmem, (ih (h.of_mem_children hmem)).1 hspot⟩
    · rintro ⟨x, hchild, hrest⟩
      have hmem := h.mem_children_iff.2 hchild
      exact .inr ⟨link, x, rest, hmem, (ih (h.of_mem_children hmem)).2 hrest, rfl⟩

theorem WellFormed.pairwise_spots {v : Json} (h : v.WellFormed) :
    (v.spots.map Prod.fst).Pairwise v.Precedes := by
  have hnext : ∀ child ∈ v.children, (child.2.spots.map Prod.fst).Pairwise child.2.Precedes :=
    fun child hmem => (h.of_mem_children hmem).pairwise_spots
  rw [spots_eq, List.map_cons, List.pairwise_cons]
  refine ⟨fun l hl => ?_, pairwise_onward h (List.Sublist.refl _) hnext⟩
  obtain ⟨⟨_, w⟩, hspot, rfl⟩ := List.mem_map.1 hl
  obtain ⟨link, _, rest, -, -, rfl⟩ := mem_onward_children.1 hspot
  exact .above v link rest
termination_by sizeOf v
decreasing_by exact sizeOf_lt_of_mem_children hmem

end TrackerTraffic.Json
