import TrackerTraffic.Proofs.QueryChange

/-!
# Losses of query strings

Whatever stands below the root of a tree of pairs holds a text, so a pair that
displaces a value loses texts.  No other pair does: a query string keeps all texts
exactly if none of its pairs asks an object for a new item under the name of a
member that the object has.
-/

namespace TrackerTraffic.QueryString

/-! ### Values that hold texts -/

/-- Everything below the value holds a text. -/
inductive Laden : Json → Prop where
  | intro {v : Json} (holds : ∀ c ∈ children v, texts c ≠ 0) (below : ∀ c ∈ children v, Laden c) :
    Laden v

theorem Laden.texts_child {v c : Json} (h : Laden v) (hc : c ∈ children v) : texts c ≠ 0 := by
  cases h with
  | intro holds _ => exact holds c hc

theorem Laden.child {v c : Json} (h : Laden v) (hc : c ∈ children v) : Laden c := by
  cases h with
  | intro _ below => exact below c hc

theorem laden_of_children {v w : Json} (h : Laden w)
    (hchildren : ∀ c ∈ children v, c ∈ children w ∨ (texts c ≠ 0 ∧ Laden c)) : Laden v := by
  refine .intro (fun c hc => ?_) (fun c hc => ?_)
  · rcases hchildren c hc with hw | ⟨hne, -⟩
    · exact h.texts_child hw
    · exact hne
  · rcases hchildren c hc with hw | ⟨-, hladen⟩
    · exact h.child hw
    · exact hladen

theorem laden_of_children_nil {v : Json} (h : children v = []) : Laden v := by
  refine .intro (fun c hc => ?_) (fun c hc => ?_)
  · rw [h] at hc
    cases hc
  · rw [h] at hc
    cases hc

theorem Laden.adapt {node : Json} (h : Laden node) (key : Key) : Laden (adapt key node) := by
  refine laden_of_children h (fun c hc => .inl ?_)
  rwa [children_adapt] at hc

theorem Laden.store {key : Key} {node value : Json} {place : Place} (h : Laden node)
    (hplace : place? key node = some place) (hne : texts value ≠ 0) (hvalue : Laden value) :
    Laden (store place value node) := by
  refine laden_of_children h (fun c hc => ?_)
  rcases children_store hplace value with ⟨-, happend⟩ | ⟨front, old, back, -, hbefore, hafter⟩
  · rw [happend, List.mem_append, List.mem_singleton] at hc
    rcases hc with hc | rfl
    · exact .inl hc
    · exact .inr ⟨hne, hvalue⟩
  · rw [hafter, List.mem_append, List.mem_cons] at hc
    rw [hbefore, List.mem_append, List.mem_cons]
    rcases hc with hc | rfl | hc
    · exact .inl (.inl hc)
    · exact .inr ⟨hne, hvalue⟩
    · exact .inl (.inr (.inr hc))

theorem Laden.combine {existing value : Json} (h : Laden existing) (hexisting : texts existing ≠ 0)
    (hne : texts value ≠ 0) (hvalue : Laden value) : Laden (combine existing value) := by
  refine laden_of_children h (fun c hc => ?_)
  cases existing with
  | array items =>
    rw [QueryString.combine, children, List.mem_append, List.mem_singleton] at hc
    rcases hc with hc | rfl
    · exact .inl hc
    · exact .inr ⟨hne, hvalue⟩
  | _ =>
    rw [QueryString.combine.eq_def, children] at hc
    simp only [List.mem_cons, List.not_mem_nil, or_false] at hc
    rcases hc with rfl | rfl
    · exact .inr ⟨hexisting, h⟩
    · exact .inr ⟨hne, hvalue⟩

/-- An entry leaves a child with texts, if the child had some. -/
theorem Change.texts_ne_zero {value node after : Json} {way : List Key}
    (h : Change value way node after) (hne : texts value ≠ 0) (hnode : texts node ≠ 0) :
    texts after ≠ 0 := by
  cases h with
  | blocked _ htexts => rwa [htexts]
  | displaced _ _ hafter =>
    rw [hafter]
    exact fun hzero => hne (add_eq_zero.1 hzero).2
  | added _ _ htexts =>
    rw [htexts]
    exact fun hzero => hne (add_eq_zero.1 hzero).2

theorem Laden.insert {value : Json} (hne : texts value ≠ 0) (hvalue : Laden value) (key : Key)
    (way : List Key) {node : Json} (hnode : isContainer node = true) (h : Laden node) :
    Laden (insert value (key :: way) node) := by
  induction way generalizing key node with
  | nil =>
    obtain ⟨place, hplace, hchild, hinsert⟩ := insert_last hnode value key
    rw [hinsert]
    cases hstep : stepTo? key node with
    | none => exact (h.adapt key).store hplace hne hvalue
    | some old =>
      have hmem := mem_children_of_stepTo? hstep
      by_cases hpush : key = .push
      · simp only [if_pos hpush]
        exact (h.adapt key).store hplace hne hvalue
      · simp only [if_neg hpush]
        refine (h.adapt key).store hplace ?_ ((h.child hmem).combine (h.texts_child hmem) hne hvalue)
        rw [texts_combine]
        exact fun hzero => hne (add_eq_zero.1 hzero).2
  | cons next rest ih =>
    obtain ⟨place, hplace, hchild, hinsert⟩ := insert_longer hnode value key next rest
    rw [hinsert]
    cases hstep : stepTo? key node with
    | none =>
      have hfresh := isContainer_freshFor next
      refine (h.adapt key).store hplace ?_ ?_
      · rwa [(change_insert value next rest hfresh).texts_fresh]
      · exact ih next hfresh (laden_of_children_nil (children_freshFor next))
    | some child =>
      have hmem := mem_children_of_stepTo? hstep
      by_cases hcontainer : isContainer child = true
      · simp only [if_pos hcontainer]
        refine (h.adapt key).store hplace ?_ (ih next hcontainer (h.child hmem))
        exact (change_insert value next rest hcontainer).texts_ne_zero hne (h.texts_child hmem)
      · simp only [if_neg hcontainer]
        exact h.adapt key

/-- What is found behind at least one step holds a text. -/
theorem Laden.texts_walk? {key : Key} {way : List Key} {node old : Json} (h : Laden node)
    (hwalk : walk? (key :: way) node = some old) : texts old ≠ 0 := by
  induction way generalizing key node with
  | nil =>
    obtain ⟨child, hstep, hend⟩ := Option.bind_eq_some_iff.1 hwalk
    obtain rfl : child = old := Option.some.inj hend
    exact h.texts_child (mem_children_of_stepTo? hstep)
  | cons next rest ih =>
    obtain ⟨child, hstep, hrest⟩ := Option.bind_eq_some_iff.1 hwalk
    exact ih (h.child (mem_children_of_stepTo? hstep)) hrest

/-! ### Trees of pairs -/

/-- The pairs of a text that are entered: those with a name. -/
def namedPairs (text : String) : List (List Char × List Char) :=
  (Form.decode (afterQuestionMark text.toList)).filter fun pair => !pair.1.isEmpty

def treeOf (pairs : List (List Char × List Char)) : Json := pairs.foldl enter (.object [])

theorem treeOf_append (front back : List (List Char × List Char)) :
    treeOf (front ++ back) = back.foldl enter (treeOf front) :=
  List.foldl_append

theorem foldl_enter_named (pairs : List (List Char × List Char)) (node : Json) :
    (pairs.filter fun pair => !pair.1.isEmpty).foldl enter node = pairs.foldl enter node := by
  induction pairs generalizing node with
  | nil => rfl
  | cons pair rest ih =>
    by_cases hname : pair.1.isEmpty = true
    · have henter : enter node pair = node := by rw [enter, if_pos hname]
      rw [List.filter_cons, hname, List.foldl_cons, henter]
      exact ih node
    · rw [List.filter_cons_of_pos (by simpa using hname), List.foldl_cons, List.foldl_cons, ih]

theorem parse_eq_treeOf (text : String) : parse text = treeOf (namedPairs text) := by
  rw [parse, treeOf, namedPairs, foldl_enter_named]

theorem readBrackets_ne_nil (depth : Nat) {rest : List Char} (hrest : rest ≠ []) :
    readBrackets depth rest ≠ [] := by
  unfold readBrackets
  split
  · exact absurd rfl hrest
  · exact List.cons_ne_nil _ _
  · split <;> exact List.cons_ne_nil _ _
  · exact List.cons_ne_nil _ _

theorem readKey_ne_nil (key : List Char) : readKey key ≠ [] := by
  simp only [readKey]
  split
  · next hclose =>
    have hbrackets : key.dropWhile (· != '[') ≠ [] := by
      intro hnil
      rw [hnil] at hclose
      cases hclose
    intro hnil
    exact readBrackets_ne_nil maxDepth hbrackets (List.append_eq_nil_iff.1 hnil).2
  · exact List.cons_ne_nil _ _

/-- What a named pair does to a tree: its text is entered at the way that its name spells. -/
theorem change_enter {tree : Json} (htree : isContainer tree = true)
    {pair : List Char × List Char} (hname : pair.1 ≠ []) :
    Change (.string (String.ofList pair.2)) (readKey pair.1) tree (enter tree pair) := by
  obtain ⟨key, way, hway⟩ := List.exists_cons_of_ne_nil (readKey_ne_nil pair.1)
  rw [enter, if_neg (by simpa using hname), hway]
  exact change_insert _ key way htree

theorem isContainer_treeOf (pairs : List (List Char × List Char)) :
    isContainer (treeOf pairs) = true := by
  induction pairs using List.reverseRecOn with
  | nil => rfl
  | append_singleton front pair ih =>
    rw [treeOf_append, List.foldl_cons, List.foldl_nil, enter]
    split
    · exact ih
    · rw [isContainer_insert, ih]

theorem laden_treeOf (pairs : List (List Char × List Char)) : Laden (treeOf pairs) := by
  induction pairs using List.reverseRecOn with
  | nil => exact laden_of_children_nil rfl
  | append_singleton front pair ih =>
    rw [treeOf_append, List.foldl_cons, List.foldl_nil, enter]
    split
    · exact ih
    · obtain ⟨key, way, hway⟩ := List.exists_cons_of_ne_nil (readKey_ne_nil pair.1)
      have htext : texts (.string (String.ofList pair.2)) ≠ 0 := by
        rw [texts_string]
        exact Multiset.singleton_ne_zero _
      rw [hway]
      exact Laden.insert htext (laden_of_children_nil rfl) key way (isContainer_treeOf front) ih

/-- The tree gains the text of the pair, unless the pair's way is blocked and the tree keeps its
texts. -/
def Keeps (tree : Json) (pair : List Char × List Char) : Prop :=
  texts (enter tree pair) = texts tree + {pair.2} ∨
    (Blocked (readKey pair.1) tree ∧ texts (enter tree pair) = texts tree)

section Pairs

variable {tree : Json} {pair : List Char × List Char}

theorem keeps_iff (htree : isContainer tree = true) (hladen : Laden tree) (hname : pair.1 ≠ []) :
    Keeps tree pair ↔ ∀ old, ¬ Displaces (readKey pair.1) tree old := by
  obtain ⟨key, way, hway⟩ := List.exists_cons_of_ne_nil (readKey_ne_nil pair.1)
  rw [Keeps, ← texts_string]
  cases change_enter htree hname with
  | blocked hblocked htexts =>
    exact iff_of_true (.inr ⟨hblocked, htexts⟩) fun old hold => hold.not_blocked hblocked
  | @displaced old others hold hbefore hafter =>
    refine iff_of_false ?_ (fun hnone => hnone old hold)
    rintro (hadded | ⟨hblocked, -⟩)
    · have hfound := hold.2
      rw [hway] at hfound
      refine hladen.texts_walk? hfound ?_
      rw [hafter, hbefore, add_right_comm] at hadded
      simpa using hadded
    · exact hold.not_blocked hblocked
  | added _ hnew htexts => exact iff_of_true (.inl htexts) hnew

theorem loss_of_displaces (htree : isContainer tree = true) (hladen : Laden tree)
    (hname : pair.1 ≠ []) {old : Json} (hold : Displaces (readKey pair.1) tree old) :
    texts old ≠ 0 ∧ texts (enter tree pair) + texts old = texts tree + {pair.2} := by
  obtain ⟨key, way, hway⟩ := List.exists_cons_of_ne_nil (readKey_ne_nil pair.1)
  have hfound := hold.2
  rw [hway] at hfound
  refine ⟨hladen.texts_walk? hfound, ?_⟩
  rw [← texts_string]
  cases change_enter htree hname with
  | blocked hblocked _ => exact absurd hblocked hold.not_blocked
  | @displaced first others hfirst hbefore hafter =>
    obtain rfl : first = old := Option.some.inj (hfirst.2.symm.trans hold.2)
    rw [hafter, hbefore, add_right_comm]
  | added _ hnew _ => exact absurd hold (hnew old)

theorem Keeps.texts_le (h : Keeps tree pair) : texts tree ≤ texts (enter tree pair) := by
  rcases h with hadded | ⟨-, hsame⟩
  · rw [hadded]
    exact Multiset.le_add_right _ _
  · rw [hsame]

end Pairs

theorem name_ne_nil_of_mem {text : String} {pair : List Char × List Char}
    (h : pair ∈ namedPairs text) : pair.1 ≠ [] := by
  have hname := (List.mem_filter.1 h).2
  simpa using hname

theorem texts_le_of_keeps {front back : List (List Char × List Char)}
    (h : ∀ between next rest, back = between ++ next :: rest →
      Keeps (treeOf (front ++ between)) next) :
    texts (treeOf front) ≤ texts (treeOf (front ++ back)) := by
  induction back using List.reverseRecOn with
  | nil => rw [List.append_nil]
  | append_singleton between next ih =>
    have hbetween := ih fun first pair rest heq =>
      h first pair (rest ++ [next]) (by rw [heq, List.append_assoc, List.cons_append])
    have hnext := (h between next [] rfl).texts_le
    rw [← List.append_assoc, treeOf_append (front ++ between)]
    exact hbetween.trans hnext

/-- A pair of a query string keeps what the pairs in front of it entered, exactly if it displaces
nothing; what it displaces is lost.  If no pair displaces anything, the tree of the whole text holds
what the pairs of any beginning entered. -/
theorem keeps_iff_not_displaces (text : String) :
    (∀ front next rest, namedPairs text = front ++ next :: rest →
      (Keeps (treeOf front) next ↔ ∀ old, ¬ Displaces (readKey next.1) (treeOf front) old) ∧
        ∀ old, Displaces (readKey next.1) (treeOf front) old → texts old ≠ 0 ∧
          texts (enter (treeOf front) next) + texts old = texts (treeOf front) + {next.2}) ∧
    ((∀ front next rest, namedPairs text = front ++ next :: rest →
        ∀ old, ¬ Displaces (readKey next.1) (treeOf front) old) →
      ∀ front rest, namedPairs text = front ++ rest →
        texts (treeOf front) ≤ texts (parse text)) := by
  have hname : ∀ front next rest, namedPairs text = front ++ next :: rest → next.1 ≠ [] := by
    intro front next rest hsplit
    have hmem : next ∈ namedPairs text := by
      rw [hsplit]
      exact List.mem_append_right _ List.mem_cons_self
    exact name_ne_nil_of_mem hmem
  refine ⟨fun front next rest hsplit => ⟨?_, fun old hold => ?_⟩, fun hnone front rest hsplit => ?_⟩
  · exact keeps_iff (isContainer_treeOf front) (laden_treeOf front) (hname _ _ _ hsplit)
  · exact loss_of_displaces (isContainer_treeOf front) (laden_treeOf front) (hname _ _ _ hsplit) hold
  · rw [parse_eq_treeOf, hsplit]
    refine texts_le_of_keeps fun between next back heq => ?_
    have hwhole : namedPairs text = (front ++ between) ++ next :: back := by
      rw [hsplit, heq, List.append_assoc]
    exact (keeps_iff (isContainer_treeOf _) (laden_treeOf _) (hname _ _ _ hwhole)).2
      (hnone _ _ _ hwhole)

/-- A new item of an object of two members takes the place of the member named `2`. -/
theorem not_keeps_new_item :
    ¬ ∀ (text : String) (front : List (List Char × List Char)) (next : List Char × List Char)
      (rest : List (List Char × List Char)), namedPairs text = front ++ next :: rest →
        Keeps (treeOf front) next := by
  intro h
  have hsplit : namedPairs "a[b]=w&a[2]=x&a[]=y" =
      [("a[b]".toList, ['w']), ("a[2]".toList, ['x'])] ++ ("a[]".toList, ['y']) :: [] := by
    decide +kernel
  have hbefore : texts (treeOf [("a[b]".toList, ['w']), ("a[2]".toList, ['x'])]) =
      {['w'], ['x']} := by decide +kernel
  have hafter : texts (enter (treeOf [("a[b]".toList, ['w']), ("a[2]".toList, ['x'])])
      ("a[]".toList, ['y'])) = {['w'], ['y']} := by decide +kernel
  rcases h _ _ _ _ hsplit with hadded | ⟨-, hsame⟩
  · rw [hbefore, hafter] at hadded
    revert hadded
    decide
  · rw [hbefore, hafter] at hsame
    revert hsame
    decide

end TrackerTraffic.QueryString
