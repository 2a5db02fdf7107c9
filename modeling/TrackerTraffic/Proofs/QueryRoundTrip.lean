import TrackerTraffic.Proofs.QueryTree

/-!
# Reading the query string of a tree

The invariant behind the round trip is about a tree that is only entered in part.
Its last child is the one under construction: a leaf of the same child goes on in
it (`insert_attach`), and the first leaf of the next child opens a container
behind it (`insert_fresh`) or is itself the child (`insert_leaf`).
-/

namespace TrackerTraffic.QueryString

/-! ### New children -/

/-- The step leads behind what the value holds: a name that is absent, or an array's length. -/
inductive Free : Key → Json → Prop where
  | name {text : List Char} {members : Json.Members}
      (absent : Json.Absent (String.ofList text) members) : Free (.name text) (.object members)
  | index {items : List Json} : Free (.index items.length) (.array items)

/-- The value with one more child behind the others. -/
def attach (key : Key) (child : Json) : Json → Json
  | .object members => .object (members ++ [(String.ofList key.text, child)])
  | .array items => .array (items ++ [child])
  | v => v

/-- What a free step finds: nothing, in a place where a child can be stored. -/
theorem Free.place {key : Key} {node : Json} (h : Free key node) :
    adapt key node = node ∧ ∃ place, place? key node = some place ∧ child? place node = none ∧
      ∀ v, store place v node = attach key v node := by
  cases h with
  | @name text members absent =>
    refine ⟨rfl, .member (String.ofList text), rfl, Json.lookup_of_absent absent, ?_⟩
    intro v
    simp only [store, attach, Key.text, Json.insert_of_absent absent]
  | @index items =>
    refine ⟨rfl, .item items.length, ?_, ?_, ?_⟩
    · simp [place?]
    · simp [child?]
    · intro v
      simp [store, attach]

/-- What the same step finds once a child is attached: the child. -/
theorem Free.place_attach {key : Key} {node : Json} (h : Free key node) (child : Json) :
    adapt key (attach key child node) = attach key child node ∧
      ∃ place, place? key (attach key child node) = some place ∧
        child? place (attach key child node) = some child ∧
          ∀ v, store place v (attach key child node) = attach key v node := by
  cases h with
  | @name text members absent =>
    refine ⟨rfl, .member (String.ofList text), rfl, Json.lookup_append_self absent child, ?_⟩
    intro v
    simp only [store, attach, Key.text, Json.insert_append_self absent]
  | @index items =>
    refine ⟨rfl, .item items.length, ?_, ?_, ?_⟩
    · simp [place?, attach]
    · simp [child?, attach]
    · intro v
      simp [store, attach]

theorem insert_leaf {key : Key} {node : Json} (h : Free key node) (value : Json) :
    insert value [key] node = attach key value node := by
  obtain ⟨hadapt, place, hplace, hchild, hstore⟩ := h.place
  simp only [insert, setLeaf, hadapt, hplace, hchild, hstore]

theorem isContainer_freshFor (key : Key) : isContainer (freshFor key) = true := by
  cases key <;> rfl

theorem insert_fresh {key : Key} {node : Json} (h : Free key node) (value : Json) (next : Key)
    (rest : List Key) :
    insert value (key :: next :: rest) node =
      attach key (insert value (next :: rest) (freshFor next)) node := by
  obtain ⟨hadapt, place, hplace, hchild, hstore⟩ := h.place
  simp only [insert, hadapt, hplace, hchild, Option.getD_none, isContainer_freshFor, if_true,
    hstore]

theorem insert_attach {key : Key} {node child : Json} (h : Free key node)
    (hchild : isContainer child = true) (value : Json) (next : Key) (rest : List Key) :
    insert value (key :: next :: rest) (attach key child node) =
      attach key (insert value (next :: rest) child) node := by
  obtain ⟨hadapt, place, hplace, hfound, hstore⟩ := h.place_attach child
  simp only [insert, hadapt, hplace, hfound, Option.getD_some, hchild, if_true, hstore]

/-! ### Containers stay containers -/

theorem isContainer_adapt (key : Key) (node : Json) :
    isContainer (adapt key node) = isContainer node := by
  unfold adapt
  split
  · cases node <;> rfl
  · rfl

theorem isContainer_store (place : Place) (value node : Json) :
    isContainer (store place value node) = isContainer node := by
  cases node with
  | array items =>
    cases place with
    | item n =>
      simp only [store]
      split <;> rfl
    | member name => rfl
  | object members => cases place <;> rfl
  | _ => rfl

theorem isContainer_insert (value : Json) (way : List Key) (node : Json) :
    isContainer (insert value way node) = isContainer node := by
  match way with
  | [] => rfl
  | [key] =>
    simp only [insert, setLeaf]
    repeat' split
    all_goals simp only [isContainer_store, isContainer_adapt]
  | key :: next :: rest =>
    simp only [insert]
    repeat' split
    all_goals simp only [isContainer_store, isContainer_adapt]

/-! ### Entering leaves -/

def enterLeaves (entries : List Leaf) (node : Json) : Json :=
  entries.foldl (fun node leaf => insert (.string (String.ofList leaf.2)) leaf.1 node) node

theorem enterLeaves_append (front back : List Leaf) (node : Json) :
    enterLeaves (front ++ back) node = enterLeaves back (enterLeaves front node) :=
  List.foldl_append

/-- Leaves under the child entered last go on in that child. -/
theorem enterLeaves_attach {key : Key} {node : Json} (h : Free key node) (entries : List Leaf)
    (hways : ∀ leaf ∈ entries, leaf.1 ≠ []) (child : Json) (hchild : isContainer child = true) :
    enterLeaves (entries.map (Leaf.under key)) (attach key child node) =
      attach key (enterLeaves entries child) node := by
  induction entries generalizing child with
  | nil => rfl
  | cons leaf rest ih =>
    obtain ⟨next, way, hway⟩ := List.exists_cons_of_ne_nil (hways leaf List.mem_cons_self)
    have hstep := insert_attach h hchild (.string (String.ofList leaf.2)) next way
    have hcontainer :
        isContainer (insert (.string (String.ofList leaf.2)) leaf.1 child) = true := by
      rw [isContainer_insert, hchild]
    have hrest := ih (fun l hl => hways l (List.mem_cons_of_mem _ hl)) _ hcontainer
    simp only [enterLeaves, List.map_cons, List.foldl_cons, Leaf.under, hway] at hrest ⊢
    rw [hstep]
    exact hrest

/-- Leaves under a free step open the container that their ways want, and go on in it. -/
theorem enterLeaves_under {key : Key} {node fresh : Json} (h : Free key node)
    {entries : List Leaf} (hne : entries ≠ [])
    (hways : ∀ leaf ∈ entries, ∃ next way, leaf.1 = next :: way ∧ freshFor next = fresh) :
    enterLeaves (entries.map (Leaf.under key)) node =
      attach key (enterLeaves entries fresh) node := by
  obtain ⟨leaf, rest, rfl⟩ := List.exists_cons_of_ne_nil hne
  obtain ⟨next, way, hway, rfl⟩ := hways leaf List.mem_cons_self
  have hrest : ∀ l ∈ rest, l.1 ≠ [] := by
    intro l hl
    obtain ⟨next', way', hway', -⟩ := hways l (List.mem_cons_of_mem _ hl)
    rw [hway']
    exact List.cons_ne_nil _ _
  have hcontainer :
      isContainer (insert (.string (String.ofList leaf.2)) leaf.1 (freshFor next)) = true := by
    rw [isContainer_insert, isContainer_freshFor]
  -- the first leaf makes the child, the others find it
  have hgo := enterLeaves_attach h rest hrest _ hcontainer
  have hstep := insert_fresh h (.string (String.ofList leaf.2)) next way
  simp only [enterLeaves, List.map_cons, List.foldl_cons, Leaf.under, hway] at hgo ⊢
  rw [hstep]
  exact hgo

/-! ### Entering branches -/

/-- The leaves of a value, entered under a free step, attach the value. -/
def Entered (v : Json) : Prop :=
  ∀ key node, Free key node → enterLeaves ((leaves v).map (Leaf.under key)) node = attach key v node

theorem enterLeaves_items {items : List Json} (hitems : ∀ v ∈ items, Entered v)
    (before : List Json) :
    enterLeaves (itemLeaves before.length items) (.array before) = .array (before ++ items) := by
  induction items generalizing before with
  | nil => rw [itemLeaves, List.append_nil]; rfl
  | cons v rest ih =>
    have hfree : Free (.index before.length) (.array before) := .index
    have hfirst := hitems v List.mem_cons_self _ _ hfree
    have hrest := ih (fun w hw => hitems w (List.mem_cons_of_mem _ hw)) (before ++ [v])
    rw [List.length_append, List.length_singleton, List.append_assoc] at hrest
    rw [itemLeaves, enterLeaves_append, hfirst]
    exact hrest

theorem enterLeaves_members {members : Json.Members}
    (hmembers : ∀ member ∈ members, Entered member.2) (before : Json.Members)
    (hnodup : ((before ++ members).map Prod.fst).Nodup) :
    enterLeaves (memberLeaves members) (.object before) = .object (before ++ members) := by
  induction members generalizing before with
  | nil => rw [memberLeaves, List.append_nil]; rfl
  | cons member rest ih =>
    obtain ⟨name, v⟩ := member
    have habsent : Json.Absent (String.ofList name.toList) before := by
      rw [String.ofList_toList]
      intro member hmember heq
      rw [List.map_append, List.nodup_append] at hnodup
      exact hnodup.2.2 _ (List.mem_map_of_mem hmember) name (by simp) heq
    have hfirst := hmembers _ List.mem_cons_self _ _ (Free.name habsent)
    have hrest := ih (fun m hm => hmembers m (List.mem_cons_of_mem _ hm)) (before ++ [(name, v)])
      (by rwa [List.append_assoc])
    rw [List.append_assoc] at hrest
    rw [memberLeaves, enterLeaves_append, hfirst, attach, Key.text, String.ofList_toList]
    exact hrest

theorem entered_of_isBranch {v : Json} (hv : IsBranch v) : Entered v := by
  refine IsBranch.induction ?_ ?_ ?_ v hv
  · intro text key node hfree
    rw [leaves, List.map_singleton]
    show insert (.string (String.ofList text.toList)) [key] node = _
    rw [String.ofList_toList, insert_leaf hfree]
  · intro items hne hlength hitems key node hfree
    have hbranch : IsBranch (.array items) :=
      ⟨hne, hlength, areBranches_iff.2 fun v hv => (hitems v hv).1⟩
    have hways : ∀ leaf ∈ leaves (.array items),
        ∃ next way, leaf.1 = next :: way ∧ freshFor next = .array [] := by
      intro leaf hleaf
      obtain ⟨n, v, below, -, -, -, -, rfl⟩ := mem_itemLeaves hleaf
      exact ⟨.index n, below.1, rfl, rfl⟩
    have hinner := enterLeaves_items (fun v hv => (hitems v hv).2) []
    rw [enterLeaves_under hfree (leaves_ne_nil hbranch) hways, leaves]
    exact congrArg (attach key · node) hinner
  · intro members hne hnodup hmembers key node hfree
    have hbranch : IsBranch (.object members) :=
      ⟨hne, hnodup, areNamedBranches_iff.2 fun member hmember =>
        ⟨(hmembers member hmember).1, (hmembers member hmember).2.1⟩⟩
    have hways : ∀ leaf ∈ leaves (.object members),
        ∃ next way, leaf.1 = next :: way ∧ freshFor next = .object [] := by
      intro leaf hleaf
      obtain ⟨member, -, below, -, rfl⟩ := mem_memberLeaves hleaf
      exact ⟨.name member.1.toList, below.1, rfl, rfl⟩
    have hinner := enterLeaves_members (fun member hmember => (hmembers member hmember).2.2) []
      hnodup
    rw [enterLeaves_under hfree (leaves_ne_nil hbranch) hways, leaves]
    exact congrArg (attach key · node) hinner

/-! ### Trees -/

theorem foldl_enter_pairs {entries : List Leaf}
    (hentries : ∀ leaf ∈ entries, spell leaf.1 ≠ [] ∧ readKey (spell leaf.1) = leaf.1)
    (node : Json) :
    (entries.map fun leaf => (spell leaf.1, leaf.2)).foldl enter node =
      enterLeaves entries node := by
  induction entries generalizing node with
  | nil => rfl
  | cons leaf rest ih =>
    obtain ⟨hne, hread⟩ := hentries leaf List.mem_cons_self
    have hempty : (spell leaf.1).isEmpty = false := by simpa using hne
    have henter : enter node (spell leaf.1, leaf.2) =
        insert (.string (String.ofList leaf.2)) leaf.1 node := by
      simp only [enter, hempty, Bool.false_eq_true, if_false, hread]
    rw [List.map_cons, List.foldl_cons, henter,
      ih (fun l hl => hentries l (List.mem_cons_of_mem _ hl))]
    rfl

theorem foldl_enter_tree {members : Json.Members} (h : IsTree members) :
    (pairs (.object members)).foldl enter (.object []) = .object members := by
  have hpairs := foldl_enter_pairs (fun leaf hleaf => h.readKey_spell hleaf) (.object [])
  have hbranches : ∀ member ∈ members, Entered member.2 :=
    fun member hmember => entered_of_isBranch (h.branch member hmember)
  rw [pairs, hpairs, leaves]
  exact enterLeaves_members hbranches [] h.nodup

theorem afterQuestionMark_of_not_mem {cs : List Char} (h : '?' ∉ cs) :
    afterQuestionMark cs = cs := by
  have hcontains : cs.contains '?' = false := by simpa using h
  rw [afterQuestionMark, hcontains]
  rfl

theorem afterQuestionMark_append {front : List Char} (h : '?' ∉ front) (cs : List Char) :
    afterQuestionMark (front ++ '?' :: cs) = cs := by
  have hcontains : (front ++ '?' :: cs).contains '?' = true := by simp
  rw [afterQuestionMark, if_pos hcontains, Form.dropWhile_ne_append h, List.drop_one,
    List.tail_cons]

/-- The query string of a tree reads as the tree, alone or behind a question mark. -/
theorem parse_print {members : Json.Members} (h : IsTree members) :
    parse (String.ofList (print (.object members))) = .object members ∧
      ∀ front : List Char, '?' ∉ front →
        parse (String.ofList (front ++ '?' :: print (.object members))) = .object members := by
  have htree : (Form.decode (print (.object members))).foldl enter (.object []) =
      .object members := by
    rw [print, Form.decode_encode, foldl_enter_tree h]
  constructor
  · rw [parse, String.toList_ofList, print, afterQuestionMark_of_not_mem (Form.not_mem_encode _)]
    exact htree
  · intro front hfront
    rw [parse, String.toList_ofList, afterQuestionMark_append hfront, htree]

/-- A name with separators in it, objects and an array in an array, and a number that is a name. -/
theorem parse_print_nested :
    let members : Json.Members :=
      [("q?&=", .array [.object [("x y", .string "1"), ("21", .string "")],
        .array [.string "+", .string "%41"]]), ("7", .string "é")]
    IsTree members ∧ '?' ∉ "https://t.example/c".toList ∧
      parse (String.ofList (print (.object members))) = .object members ∧
      parse (String.ofList ("https://t.example/c".toList ++ '?' :: print (.object members))) =
        .object members := by
  intro members
  have htree : IsTree members := by decide +kernel
  have hfront : '?' ∉ "https://t.example/c".toList := by decide +kernel
  exact ⟨htree, hfront, (parse_print htree).1, (parse_print htree).2 _ hfront⟩

end TrackerTraffic.QueryString
