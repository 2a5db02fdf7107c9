import TrackerTraffic.Proofs.FormRoundTrip
import TrackerTraffic.Proofs.JsonMembers
import TrackerTraffic.Proofs.QueryKeys
import TrackerTraffic.QueryString.Tree

/-!
# Query strings of trees

A tree of texts is written as the pairs of its leaves, each under the spelling of
the way to it, in document order.  Entering the pairs one after another builds
the tree again: at every moment the tree so far is the part in front of the leaf
that comes next, and its way either goes on in the child entered last or opens a
new child behind it.
-/

namespace TrackerTraffic.QueryString

/-! ### Leaves -/

/-- A text in a tree with the way to it. -/
abbrev Leaf := List Key × List Char

/-- The leaf as seen from a step further up. -/
def Leaf.under (key : Key) (leaf : Leaf) : Leaf := (key :: leaf.1, leaf.2)

mutual
/-- The texts in a value, in document order. -/
def leaves : Json → List Leaf
  | .string text => [([], text.toList)]
  | .array items => itemLeaves 0 items
  | .object members => memberLeaves members
  | _ => []

/-- The texts in items, whose positions are counted from a first one on. -/
def itemLeaves : Nat → List Json → List Leaf
  | _, [] => []
  | n, v :: rest => (leaves v).map (Leaf.under (.index n)) ++ itemLeaves (n + 1) rest

def memberLeaves : Json.Members → List Leaf
  | [] => []
  | (name, v) :: rest => (leaves v).map (Leaf.under (.name name.toList)) ++ memberLeaves rest
end

/-- The pairs of a tree: the spelling of the way to each leaf, and its text. -/
def pairs (tree : Json) : List (List Char × List Char) :=
  (leaves tree).map fun leaf => (spell leaf.1, leaf.2)

def print (tree : Json) : List Char := Form.encode (pairs tree)

mutual
/-- A value below the root that query strings can express: texts in containers that are not empty,
no array longer than positions reach, and no name that reads as a position. -/
def IsBranch : Json → Prop
  | .string _ => True
  | .array items => items ≠ [] ∧ items.length ≤ maxIndex + 1 ∧ AreBranches items
  | .object members =>
    members ≠ [] ∧ (members.map Prod.fst).Nodup ∧ AreNamedBranches members
  | _ => False

def AreBranches : List Json → Prop
  | [] => True
  | v :: rest => IsBranch v ∧ AreBranches rest

/-- `IsBranch` for the value of every member, whose name can stand in brackets. -/
def AreNamedBranches : Json.Members → Prop
  | [] => True
  | (name, v) :: rest =>
    (Key.name name.toList).Bracketable ∧ IsBranch v ∧ AreNamedBranches rest
end

/-- An object that query strings can express: a root of branches that no way reaches too deep. -/
structure IsTree (members : Json.Members) : Prop where
  nodup : (members.map Prod.fst).Nodup
  name : ∀ member ∈ members, IsName member.1.toList
  branch : ∀ member ∈ members, IsBranch member.2
  depth : ∀ leaf ∈ leaves (.object members), leaf.1.length ≤ maxDepth + 1

mutual
def decideBranch : (v : Json) → Decidable (IsBranch v)
  | .string _ => .isTrue trivial
  | .array items =>
    have := decideBranches items
    inferInstanceAs (Decidable (items ≠ [] ∧ items.length ≤ maxIndex + 1 ∧ AreBranches items))
  | .object members =>
    have := decideNamedBranches members
    inferInstanceAs (Decidable
      (members ≠ [] ∧ (members.map Prod.fst).Nodup ∧ AreNamedBranches members))
  | .null | .bool _ | .number _ => .isFalse id

def decideBranches : (items : List Json) → Decidable (AreBranches items)
  | [] => .isTrue trivial
  | v :: rest =>
    have := decideBranch v
    have := decideBranches rest
    inferInstanceAs (Decidable (IsBranch v ∧ AreBranches rest))

def decideNamedBranches : (members : Json.Members) → Decidable (AreNamedBranches members)
  | [] => .isTrue trivial
  | (name, v) :: rest =>
    have := decideBranch v
    have := decideNamedBranches rest
    inferInstanceAs (Decidable
      ((Key.name name.toList).Bracketable ∧ IsBranch v ∧ AreNamedBranches rest))
end

instance (v : Json) : Decidable (IsBranch v) := decideBranch v

theorem isTree_iff {members : Json.Members} :
    IsTree members ↔
      (members.map Prod.fst).Nodup ∧ (∀ member ∈ members, IsName member.1.toList) ∧
        (∀ member ∈ members, IsBranch member.2) ∧
          ∀ leaf ∈ leaves (.object members), leaf.1.length ≤ maxDepth + 1 :=
  ⟨fun h => ⟨h.nodup, h.name, h.branch, h.depth⟩, fun h => ⟨h.1, h.2.1, h.2.2.1, h.2.2.2⟩⟩

instance (members : Json.Members) : Decidable (IsTree members) :=
  decidable_of_iff _ isTree_iff.symm

/-! ### Ways of leaves -/

theorem mem_itemLeaves {leaf : Leaf} {first : Nat} {items : List Json}
    (h : leaf ∈ itemLeaves first items) :
    ∃ n v below, first ≤ n ∧ n < first + items.length ∧ v ∈ items ∧ below ∈ leaves v ∧
      leaf = below.under (.index n) := by
  induction items generalizing first with
  | nil => simp [itemLeaves] at h
  | cons v rest ih =>
    rw [itemLeaves, List.mem_append, List.mem_map] at h
    rcases h with ⟨below, hbelow, rfl⟩ | h
    · exact ⟨first, v, below, by omega, by simp, List.mem_cons_self, hbelow, rfl⟩
    · obtain ⟨n, w, below, hle, hlt, hw, hbelow, heq⟩ := ih h
      rw [List.length_cons]
      exact ⟨n, w, below, by omega, by omega, List.mem_cons_of_mem _ hw, hbelow, heq⟩

theorem mem_memberLeaves {leaf : Leaf} {members : Json.Members} (h : leaf ∈ memberLeaves members) :
    ∃ member ∈ members, ∃ below ∈ leaves member.2,
      leaf = below.under (.name member.1.toList) := by
  induction members with
  | nil => simp [memberLeaves] at h
  | cons member rest ih =>
    rw [memberLeaves, List.mem_append, List.mem_map] at h
    rcases h with ⟨below, hbelow, rfl⟩ | h
    · exact ⟨member, List.mem_cons_self, below, hbelow, rfl⟩
    · obtain ⟨found, hfound, below, hbelow, heq⟩ := ih h
      exact ⟨found, List.mem_cons_of_mem _ hfound, below, hbelow, heq⟩

theorem areBranches_iff {items : List Json} : AreBranches items ↔ ∀ v ∈ items, IsBranch v := by
  induction items with
  | nil => simp [AreBranches]
  | cons v rest ih => simp [AreBranches, ih]

theorem areNamedBranches_iff {members : Json.Members} :
    AreNamedBranches members ↔
      ∀ member ∈ members, (Key.name member.1.toList).Bracketable ∧ IsBranch member.2 := by
  induction members with
  | nil => simp [AreNamedBranches]
  | cons member rest ih =>
    obtain ⟨name, v⟩ := member
    simp [AreNamedBranches, ih, and_assoc]

/-- Induction over branches: what holds of a text, and of a container as soon as it holds of
what the container holds, holds of every branch. -/
theorem IsBranch.induction {motive : Json → Prop} (string : ∀ text, motive (.string text))
    (array : ∀ items, items ≠ [] → items.length ≤ maxIndex + 1 →
      (∀ v ∈ items, IsBranch v ∧ motive v) → motive (.array items))
    (object : ∀ members, members ≠ [] → (members.map Prod.fst).Nodup →
      (∀ member ∈ members, (Key.name member.1.toList).Bracketable ∧
        IsBranch member.2 ∧ motive member.2) → motive (.object members)) :
    ∀ v, IsBranch v → motive v
  | .string text, _ => string text
  | .array items, h =>
    array items h.1 h.2.1 fun v hv =>
      have hbranch := areBranches_iff.1 h.2.2 v hv
      ⟨hbranch, IsBranch.induction string array object v hbranch⟩
  | .object members, h =>
    object members h.1 h.2.1 fun member hmember =>
      have hbranch := areNamedBranches_iff.1 h.2.2 member hmember
      ⟨hbranch.1, hbranch.2, IsBranch.induction string array object member.2 hbranch.2⟩
termination_by v => sizeOf v
decreasing_by
  · have hsize := List.sizeOf_lt_of_mem hv
    simp only [Json.array.sizeOf_spec]
    omega
  · have hsize := List.sizeOf_lt_of_mem hmember
    have hmember : sizeOf member = 1 + sizeOf member.1 + sizeOf member.2 := by
      cases member
      rfl
    simp only [Json.object.sizeOf_spec]
    omega

theorem leaves_ne_nil {v : Json} (hv : IsBranch v) : leaves v ≠ [] := by
  refine IsBranch.induction (motive := fun v => leaves v ≠ []) ?_ ?_ ?_ v hv
  · intro text
    simp [leaves]
  · intro items hne _ hitems
    obtain ⟨first, rest, rfl⟩ := List.exists_cons_of_ne_nil hne
    have hfirst := (hitems first List.mem_cons_self).2
    simp [leaves, itemLeaves, hfirst]
  · intro members hne _ hmembers
    obtain ⟨first, rest, rfl⟩ := List.exists_cons_of_ne_nil hne
    have hfirst := (hmembers first List.mem_cons_self).2.2
    simp [leaves, memberLeaves, hfirst]

theorem bracketable_of_mem_leaves {v : Json} (hv : IsBranch v) :
    ∀ leaf ∈ leaves v, ∀ key ∈ leaf.1, key.Bracketable := by
  refine IsBranch.induction
    (motive := fun v => ∀ leaf ∈ leaves v, ∀ key ∈ leaf.1, key.Bracketable) ?_ ?_ ?_ v hv
  · intro text leaf hleaf key hkey
    rw [leaves, List.mem_singleton] at hleaf
    rw [hleaf] at hkey
    exact absurd hkey List.not_mem_nil
  · intro items _ hlength hitems leaf hleaf key hkey
    obtain ⟨n, v, below, -, hlt, hv, hbelow, rfl⟩ := mem_itemLeaves hleaf
    rcases List.mem_cons.1 hkey with rfl | hkey
    · have hposition : n ≤ maxIndex := by omega
      exact hposition
    · exact (hitems v hv).2 below hbelow key hkey
  · intro members _ _ hmembers leaf hleaf key hkey
    obtain ⟨member, hmember, below, hbelow, rfl⟩ := mem_memberLeaves hleaf
    obtain ⟨hname, -, hrest⟩ := hmembers member hmember
    rcases List.mem_cons.1 hkey with rfl | hkey
    · exact hname
    · exact hrest below hbelow key hkey

namespace IsTree

variable {members : Json.Members}

theorem leaf_way (h : IsTree members) {leaf : Leaf} (hleaf : leaf ∈ leaves (.object members)) :
    ∃ root keys, leaf.1 = .name root :: keys ∧ IsName root ∧
      (∀ key ∈ keys, key.Bracketable) ∧ keys.length ≤ maxDepth := by
  have hdepth := h.depth leaf hleaf
  obtain ⟨member, hmember, below, hbelow, rfl⟩ := mem_memberLeaves hleaf
  have hlength : below.1.length ≤ maxDepth := Nat.le_of_succ_le_succ hdepth
  exact ⟨member.1.toList, below.1, rfl, h.name member hmember,
    bracketable_of_mem_leaves (h.branch member hmember) below hbelow, hlength⟩

theorem readKey_spell (h : IsTree members) {leaf : Leaf}
    (hleaf : leaf ∈ leaves (.object members)) :
    spell leaf.1 ≠ [] ∧ readKey (spell leaf.1) = leaf.1 := by
  obtain ⟨root, keys, hway, hroot, hkeys, hdepth⟩ := h.leaf_way hleaf
  rw [hway]
  exact ⟨spell_name_ne_nil hroot keys, QueryString.readKey_spell hroot hkeys hdepth⟩

end IsTree

end TrackerTraffic.QueryString
