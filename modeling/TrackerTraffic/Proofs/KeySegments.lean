import TrackerTraffic.Proofs.QueryLosses

/-!
# Keys cut at their brackets

A key that opens a bracket and closes one behind it is cut at the first opening bracket, and from
there on at up to five pairs of brackets; what is left over is a name.  Every character of the key
is in one of the pieces, so at least one step comes of a key, and at most seven do.
-/

namespace TrackerTraffic.QueryString

/-! ### The pieces of a key -/

def enclosed (segment : List Char) : List Char := '[' :: (segment ++ [']'])

/-- The text begins with an opening bracket and closes one later on. -/
def Opens (text : List Char) : Prop := ∃ inner, text = '[' :: inner ∧ ']' ∈ inner

/-- An opening bracket stands in the text and a closing one behind it. -/
def IsBracketed (text : List Char) : Prop := ∃ front back, text = front ++ back ∧ Opens back

/-- The steps of a text that is a name, if there is any. -/
def asName (text : List Char) : List Key := if text = [] then [] else [.name text]

/-- What a text between brackets stands for. -/
inductive StandsFor : List Char → Key → Prop where
  | push : StandsFor [] .push
  | index {segment : List Char} {n : Nat} (hread : Text.unsigned? segment = some n) (hle : n ≤ 20) :
    StandsFor segment (.index n)
  | name {segment : List Char} (hne : segment ≠ [])
      (hread : ∀ n, Text.unsigned? segment = some n → 20 < n) : StandsFor segment (.name segment)

theorem standsFor_ofSegment (segment : List Char) : StandsFor segment (Key.ofSegment segment) := by
  by_cases hnil : segment = []
  · subst hnil
    exact .push
  · have hempty : ¬ segment.isEmpty = true := by simpa using hnil
    rw [Key.ofSegment, if_neg hempty]
    cases hread : Text.unsigned? segment with
    | none => exact .name hnil (fun n hn => by simp [hread] at hn)
    | some n =>
      by_cases hle : n ≤ maxIndex
      · simp only [if_pos hle]
        exact .index hread hle
      · simp only [if_neg hle]
        refine .name hnil (fun m hm => ?_)
        rw [hread, Option.some.injEq] at hm
        rw [maxIndex] at hle
        omega

/-- The pieces of a key, and the steps that its segments stand for. -/
structure IsCut (key root : List Char) (segments : List (List Char)) (rest : List Char)
    (steps : List Key) : Prop where
  key_eq : key = root ++ segments.flatMap enclosed ++ rest
  open_not_mem_root : '[' ∉ root
  length_pos : 1 ≤ segments.length
  length_le : segments.length ≤ 5
  close_not_mem : ∀ segment ∈ segments, ']' ∉ segment
  length_of_opens : Opens rest → segments.length = 5
  standsFor : List.Forall₂ StandsFor segments steps

theorem asName_length_le (text : List Char) : (asName text).length ≤ 1 := by
  rw [asName]
  split <;> simp

/-! ### Reading brackets -/

theorem readBrackets_of_not_opens (depth : Nat) {text : List Char} (h : ¬ Opens text) :
    readBrackets depth text = asName text := by
  fun_cases readBrackets depth text with
  | case1 => rfl
  | case2 => rw [asName, if_neg ‹_›]
  | case3 depth inner hclose => exact absurd ⟨inner, rfl, by simpa using hclose⟩ h
  | case4 => rfl
  | case5 => rw [asName, if_neg ‹_›]

theorem readBrackets_zero (text : List Char) : readBrackets 0 text = asName text := by
  cases text <;> rfl

/-- An opening bracket is read up to the closing one that is nearest. -/
theorem exists_segment {text : List Char} (h : Opens text) :
    ∃ segment rest, text = enclosed segment ++ rest ∧ ']' ∉ segment ∧
      ∀ depth, readBrackets (depth + 1) text = .ofSegment segment :: readBrackets depth rest := by
  obtain ⟨inner, rfl, hclose⟩ := h
  obtain ⟨segment, rest, rfl, hnot⟩ := List.eq_append_cons_of_mem hclose
  refine ⟨segment, rest, by simp [enclosed], hnot, fun depth => ?_⟩
  have hcontains : (segment ++ ']' :: rest).contains ']' = true := by simp
  rw [readBrackets, if_pos hcontains, Form.takeWhile_ne_append hnot, Form.dropWhile_ne_append hnot,
    List.drop_one, List.tail_cons]

theorem exists_segments (depth : Nat) (text : List Char) :
    ∃ segments rest, text = segments.flatMap enclosed ++ rest ∧ segments.length ≤ depth ∧
      (∀ segment ∈ segments, ']' ∉ segment) ∧ (Opens rest → segments.length = depth) ∧
      (Opens text → 0 < depth → segments ≠ []) ∧
      readBrackets depth text = segments.map .ofSegment ++ asName rest := by
  induction depth generalizing text with
  | zero =>
    refine ⟨[], text, rfl, Nat.le_refl 0, List.forall_mem_nil _, fun _ => rfl, ?_, ?_⟩
    · intro _ hpos
      exact absurd hpos (Nat.lt_irrefl 0)
    · exact readBrackets_zero text
  | succ depth ih =>
    by_cases hopens : Opens text
    · obtain ⟨segment, behind, rfl, hsegment, hread⟩ := exists_segment hopens
      obtain ⟨segments, rest, rfl, hlength, hclose, hdepth, -, hrest⟩ := ih behind
      refine ⟨segment :: segments, rest, ?_, Nat.succ_le_succ hlength,
        List.forall_mem_cons.2 ⟨hsegment, hclose⟩, fun h => congrArg Nat.succ (hdepth h),
        fun _ _ => List.cons_ne_nil _ _, ?_⟩
      · rw [List.flatMap_cons, List.append_assoc]
      · rw [hread, hrest, List.map_cons, List.cons_append]
    · exact ⟨[], text, rfl, Nat.zero_le _, List.forall_mem_nil _, fun h => absurd h hopens,
        fun h => absurd h hopens, readBrackets_of_not_opens _ hopens⟩

/-! ### Reading keys -/

theorem IsBracketed.exists_root {key : List Char} (h : IsBracketed key) :
    ∃ root brackets, key = root ++ brackets ∧ '[' ∉ root ∧ Opens brackets := by
  obtain ⟨front, back, hkey, inner, hback, hclose⟩ := h
  subst hback
  have hopen : '[' ∈ key := by simp [hkey]
  obtain ⟨root, tail, hroot, hnot⟩ := List.eq_append_cons_of_mem hopen
  refine ⟨root, '[' :: tail, hroot, hnot, tail, rfl, ?_⟩
  -- the bracket that is followed by a closing one is the first one or stands behind it
  rw [hkey] at hroot
  rcases List.append_eq_append_iff.1 hroot with ⟨between, hbetween, htail⟩ | ⟨between, -, htail⟩
  · cases between with
    | nil =>
      obtain ⟨-, htail⟩ := List.cons.inj htail
      rwa [← htail]
    | cons c between =>
      obtain ⟨hc, -⟩ := List.cons.inj htail
      exact absurd (by rw [hbetween, hc]; simp) hnot
  · have hmem : ']' ∈ '[' :: tail := by simp [htail, hclose]
    simpa using hmem

theorem opens_dropWhile {key : List Char} (h : ']' ∈ key.dropWhile (· != '[')) :
    Opens (key.dropWhile (· != '[')) := by
  cases hdrop : key.dropWhile (· != '[') with
  | nil => simp [hdrop] at h
  | cons c inner =>
    have hhead : c = '[' := by
      have hfalse := List.head_dropWhile_not (· != '[') (by simp [hdrop] : key.dropWhile _ ≠ [])
      simpa only [hdrop, List.head_cons, bne_eq_false_iff_eq] using hfalse
    rw [hdrop, hhead] at h
    exact ⟨inner, by rw [hhead], by simpa using h⟩

theorem readKey_of_not_isBracketed {key : List Char} (h : ¬ IsBracketed key) :
    readKey key = [.name key] := by
  have hnot : ¬ (key.dropWhile (· != '[')).contains ']' = true := by
    intro hclose
    refine h ⟨_, _, List.takeWhile_append_dropWhile.symm, opens_dropWhile ?_⟩
    simpa using hclose
  rw [readKey, if_neg hnot]

theorem readKey_of_opens {root brackets : List Char} (hroot : '[' ∉ root) (h : Opens brackets) :
    readKey (root ++ brackets) = asName root ++ readBrackets maxDepth brackets := by
  obtain ⟨inner, rfl, hclose⟩ := h
  have hcontains : ('[' :: inner).contains ']' = true := by simp [hclose]
  simp only [readKey, Form.takeWhile_ne_append hroot, Form.dropWhile_ne_append hroot,
    if_pos hcontains, asName, List.isEmpty_iff]

theorem exists_isCut {key : List Char} (h : IsBracketed key) :
    ∃ root segments rest steps, IsCut key root segments rest steps ∧
      readKey key = asName root ++ steps ++ asName rest := by
  obtain ⟨root, brackets, rfl, hroot, hopens⟩ := h.exists_root
  obtain ⟨segments, rest, hbrackets, hlength, hclose, hdepth, hne, hread⟩ :=
    exists_segments maxDepth brackets
  have hpos := List.length_pos_of_ne_nil (hne hopens (by decide))
  have hsteps : List.Forall₂ StandsFor segments (segments.map .ofSegment) := by
    rw [List.forall₂_map_right_iff, List.forall₂_same]
    intro segment _
    exact standsFor_ofSegment segment
  refine ⟨root, segments, rest, segments.map .ofSegment,
    ⟨?_, hroot, hpos, hlength, hclose, hdepth, hsteps⟩, ?_⟩
  · rw [hbrackets, List.append_assoc]
  · rw [readKey_of_opens hroot hopens, hread, List.append_assoc]

theorem readKey_length (key : List Char) :
    1 ≤ (readKey key).length ∧ (readKey key).length ≤ 7 := by
  by_cases h : IsBracketed key
  · obtain ⟨root, segments, rest, steps, hcut, hread⟩ := exists_isCut h
    have hpos := hcut.length_pos
    have hfive := hcut.length_le
    have hsteps := hcut.standsFor.length_eq
    have hroot := asName_length_le root
    have hrest := asName_length_le rest
    rw [hread, List.length_append, List.length_append]
    omega
  · simp [readKey_of_not_isBracketed h]

/-! ### Entering -/

/-- Enters a value as `insert` does, but has no answer for an empty way. -/
def insert? (value : Json) : List Key → Json → Option Json
  | [], _ => none
  | [key], node => some (setLeaf key value node)
  | key :: next :: rest, node =>
    let node := adapt key node
    match place? key node with
    | none => some node
    | some place =>
      let child := (child? place node).getD (freshFor next)
      if isContainer child then
        (insert? value (next :: rest) child).map (store place · node)
      else some node

/-- The tree of a text, unless an empty way is met. -/
def parse? (text : String) : Option Json :=
  (Form.decode (afterQuestionMark text.toList)).foldlM
    (fun root pair =>
      if pair.1.isEmpty then some root
      else insert? (.string (String.ofList pair.2)) (readKey pair.1) root)
    (.object [])

theorem insert?_eq (value : Json) {way : List Key} (hne : way ≠ []) (node : Json) :
    insert? value way node = some (insert value way node) := by
  fun_induction insert value way node with
  | case1 => exact absurd rfl hne
  | case2 => rfl
  | case3 key next rest _ node hplace => simp [insert?, node, hplace]
  | case4 key next rest _ node place hplace child hcontainer ih =>
    have hrest := ih (List.cons_ne_nil next rest)
    simp [insert?, node, hplace, child, hcontainer, hrest]
  | case5 key next rest _ node place hplace child hcontainer =>
    simp [insert?, node, hplace, child, hcontainer]

theorem insert?_readKey (value : Json) (key : List Char) (node : Json) :
    insert? value (readKey key) node = some (insert value (readKey key) node) :=
  insert?_eq value (readKey_ne_nil key) node

theorem parse?_eq (text : String) : parse? text = some (parse text) := by
  rw [parse?, parse]
  generalize Json.object [] = root
  induction Form.decode (afterQuestionMark text.toList) generalizing root with
  | nil => rfl
  | cons pair pairs ih =>
    have henter : (if pair.1.isEmpty then some root
        else insert? (.string (String.ofList pair.2)) (readKey pair.1) root) =
        some (enter root pair) := by
      rw [insert?_readKey, enter]
      split <;> rfl
    rw [List.foldlM_cons, List.foldl_cons, henter]
    exact ih (enter root pair)

/--
A key with an opening bracket and a closing one behind it is the text in front of the first bracket,
one to five segments in brackets, and a rest, and its steps are those of the pieces in their order.
Any other key is a single name.  So a key has one to seven steps, and no empty way is entered.
-/
theorem readKey_pieces :
    (∀ key, IsBracketed key → ∃ root segments rest steps, IsCut key root segments rest steps ∧
      readKey key = asName root ++ steps ++ asName rest) ∧
    (∀ key, ¬ IsBracketed key → readKey key = [.name key]) ∧
    (∀ key, 1 ≤ (readKey key).length ∧ (readKey key).length ≤ 7) ∧
    (∀ value key node,
      insert? value (readKey key) node = some (insert value (readKey key) node)) ∧
    ∀ text, parse? text = some (parse text) :=
  ⟨fun _ => exists_isCut, fun _ => readKey_of_not_isBracketed, readKey_length, insert?_readKey,
    parse?_eq⟩

/-- Seven steps: a sign in front of a number, a number too great, and a bracket too many. -/
theorem readKey_pieces_seven :
    let key := "a[+7][][21][[x][20][y]]".toList
    (∃ root segments rest steps, IsCut key root segments rest steps ∧
      readKey key = asName root ++ steps ++ asName rest) ∧
    readKey key = [.name ['a'], .index 7, .push, .name ['2', '1'], .name ['[', 'x'], .index 20,
      .name ['[', 'y', ']', ']']] := by
  intro key
  have hopens : Opens "[+7][][21][[x][20][y]]".toList :=
    ⟨"+7][][21][[x][20][y]]".toList, by decide, by decide⟩
  have hbracketed : IsBracketed key := ⟨['a'], _, by decide, hopens⟩
  exact ⟨readKey_pieces.1 key hbracketed, by decide +kernel⟩

end TrackerTraffic.QueryString
