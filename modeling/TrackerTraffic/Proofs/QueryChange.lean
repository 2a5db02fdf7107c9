import TrackerTraffic.Proofs.QueryTexts

/-!
# What an entry does to the texts

A value entered into a tree adds its texts.  It adds nothing if a text stands on its
way, and it puts its texts in the place of another value's if the way asks for a
new item in an object that already has a member named by its size.  These are the
three cases of `Change`.
-/

namespace TrackerTraffic.QueryString

/-! ### Ways through a tree -/

/-- The child that a step leads to, if there is one. -/
def stepTo? (key : Key) (node : Json) : Option Json :=
  (place? key (adapt key node)).bind (child? · (adapt key node))

/-- What stands at the end of a way. -/
def walk? : List Key → Json → Option Json
  | [], node => some node
  | key :: way, node => (stepTo? key node).bind (walk? way)

/-- A value that can hold nothing stands on the way before its end. -/
def Blocked (way : List Key) (node : Json) : Prop :=
  ∃ front back v, way = front ++ back ∧ back ≠ [] ∧ walk? front node = some v ∧
    isContainer v = false

/-- The way ends in a new item, and yet a value stands there already. -/
def Displaces (way : List Key) (node old : Json) : Prop :=
  way.getLast? = some .push ∧ walk? way node = some old

theorem blocked_cons {key : Key} {way : List Key} {node : Json}
    (hnode : isContainer node = true) :
    Blocked (key :: way) node ↔ ∃ child, stepTo? key node = some child ∧ Blocked way child := by
  constructor
  · rintro ⟨front, back, v, hway, hback, hwalk, hv⟩
    cases front with
    | nil =>
      obtain rfl : node = v := Option.some.inj hwalk
      rw [hnode] at hv
      cases hv
    | cons first front =>
      obtain ⟨rfl, rfl⟩ := List.cons.inj hway
      obtain ⟨child, hstep, hwalk⟩ := Option.bind_eq_some_iff.1 hwalk
      exact ⟨child, hstep, front, back, v, rfl, hback, hwalk, hv⟩
  · rintro ⟨child, hstep, front, back, v, rfl, hback, hwalk, hv⟩
    exact ⟨key :: front, back, v, rfl, hback, by rw [walk?, hstep]; exact hwalk, hv⟩

theorem not_blocked_singleton {key : Key} {node : Json} (hnode : isContainer node = true) :
    ¬ Blocked [key] node := by
  rw [blocked_cons hnode]
  rintro ⟨child, -, front, back, v, hnil, hback, -, -⟩
  exact hback (List.append_eq_nil_iff.1 hnil.symm).2

theorem displaces_cons {key next : Key} {rest : List Key} {node old : Json} :
    Displaces (key :: next :: rest) node old ↔
      ∃ child, stepTo? key node = some child ∧ Displaces (next :: rest) child old := by
  constructor
  · rintro ⟨hlast, hwalk⟩
    obtain ⟨child, hstep, hwalk⟩ := Option.bind_eq_some_iff.1 hwalk
    exact ⟨child, hstep, hlast, hwalk⟩
  · rintro ⟨child, hstep, hlast, hwalk⟩
    exact ⟨hlast, by rw [walk?, hstep]; exact hwalk⟩

theorem walk?_append (front back : List Key) (node : Json) :
    walk? (front ++ back) node = (walk? front node).bind (walk? back) := by
  induction front generalizing node with
  | nil => rfl
  | cons key rest ih =>
    rw [List.cons_append, walk?, walk?]
    cases stepTo? key node with
    | none => rfl
    | some child => exact ih child

theorem stepTo?_scalar {node : Json} (hnode : isContainer node = false) (key : Key) :
    stepTo? key node = none := by
  have hadapted : isContainer (adapt key node) = false := by rw [isContainer_adapt, hnode]
  rw [stepTo?]
  cases hshape : adapt key node with
  | array items => rw [hshape] at hadapted; cases hadapted
  | object members => rw [hshape] at hadapted; cases hadapted
  | _ => rfl

/-- A blocked way leads nowhere, so nothing is displaced at its end. -/
theorem Displaces.not_blocked {way : List Key} {node old : Json} (h : Displaces way node old) :
    ¬ Blocked way node := by
  rintro ⟨front, back, v, rfl, hback, hwalk, hv⟩
  obtain ⟨key, rest, rfl⟩ := List.exists_cons_of_ne_nil hback
  have hfound := h.2
  rw [walk?_append, hwalk, Option.bind_some, walk?, stepTo?_scalar hv] at hfound
  cases hfound

theorem walk?_singleton (key : Key) (node : Json) : walk? [key] node = stepTo? key node := by
  rw [walk?]
  cases stepTo? key node <;> rfl

theorem stepTo?_freshFor (key : Key) : stepTo? key (freshFor key) = none := by
  cases key <;> rfl

/-- The child that a step leads to is the one at the step's place. -/
theorem exists_place_stepTo? {node : Json} (hnode : isContainer node = true) (key : Key) :
    ∃ place, place? key (adapt key node) = some place ∧
      child? place (adapt key node) = stepTo? key node := by
  obtain ⟨place, hplace⟩ := exists_place hnode key
  exact ⟨place, hplace, by rw [stepTo?, hplace, Option.bind_some]⟩

theorem mem_children_of_stepTo? {key : Key} {node child : Json}
    (hstep : stepTo? key node = some child) : child ∈ children node := by
  obtain ⟨place, hplace, hchild⟩ := Option.bind_eq_some_iff.1 hstep
  rw [← children_adapt key node]
  -- storing anything at the place shows what stands there
  rcases children_store hplace .null with ⟨hnone, -⟩ | ⟨front, old, back, hsome, hmem, -⟩
  · rw [hchild] at hnone
    cases hnone
  · obtain rfl : child = old := by rw [hchild] at hsome; exact Option.some.inj hsome
    rw [hmem]
    exact List.mem_append_right _ List.mem_cons_self

/-! ### What an entry does -/

theorem insert_last {node : Json} (hnode : isContainer node = true) (value : Json) (key : Key) :
    ∃ place, place? key (adapt key node) = some place ∧
      child? place (adapt key node) = stepTo? key node ∧
      insert value [key] node = store place
        (match stepTo? key node with
          | none => value
          | some old => if key = .push then value else combine old value) (adapt key node) := by
  obtain ⟨place, hplace, hchild⟩ := exists_place_stepTo? hnode key
  refine ⟨place, hplace, hchild, ?_⟩
  simp only [insert, setLeaf, hplace, hchild]
  cases stepTo? key node with
  | none => rfl
  | some old =>
    simp only
    split <;> rfl

theorem insert_longer {node : Json} (hnode : isContainer node = true) (value : Json)
    (key next : Key) (rest : List Key) :
    ∃ place, place? key (adapt key node) = some place ∧
      child? place (adapt key node) = stepTo? key node ∧
      insert value (key :: next :: rest) node =
        match stepTo? key node with
        | none => store place (insert value (next :: rest) (freshFor next)) (adapt key node)
        | some child =>
          if isContainer child then
            store place (insert value (next :: rest) child) (adapt key node)
          else adapt key node := by
  obtain ⟨place, hplace, hchild⟩ := exists_place_stepTo? hnode key
  refine ⟨place, hplace, hchild, ?_⟩
  simp only [insert, hplace, hchild]
  cases stepTo? key node with
  | none => simp only [Option.getD_none, isContainer_freshFor, if_true]
  | some child => rfl

/-- How the texts of a tree change when a value is entered at the end of a way. -/
inductive Change (value : Json) (way : List Key) (node after : Json) : Prop where
  | blocked (hblocked : Blocked way node) (htexts : texts after = texts node)
  | displaced {old : Json} {others : Multiset (List Char)} (hold : Displaces way node old)
      (hbefore : texts node = others + texts old) (hafter : texts after = others + texts value)
  | added (hopen : ¬ Blocked way node) (hnew : ∀ old, ¬ Displaces way node old)
      (htexts : texts after = texts node + texts value)

theorem change_last {node : Json} (hnode : isContainer node = true) (value : Json) (key : Key) :
    Change value [key] node (insert value [key] node) := by
  obtain ⟨place, hplace, hchild, hinsert⟩ := insert_last hnode value key
  have hopen : ¬ Blocked [key] node := not_blocked_singleton hnode
  have hwalk := walk?_singleton key node
  cases hstep : stepTo? key node with
  | none =>
    rw [hstep] at hchild hinsert hwalk
    refine .added hopen (fun old hold => ?_) ?_
    · have hfound := hold.2
      rw [hwalk] at hfound
      cases hfound
    · rw [hinsert, texts_store_of_none hplace hchild, texts_adapt]
  | some old =>
    rw [hstep] at hchild hinsert hwalk
    by_cases hpush : key = .push
    · obtain ⟨others, hbefore, hafter⟩ := texts_store_of_some hplace hchild value
      rw [texts_adapt] at hbefore
      refine .displaced ⟨?_, hwalk⟩ hbefore ?_
      · rw [hpush, List.getLast?_singleton]
      · rw [hinsert]
        simp only [if_pos hpush, hafter]
    · obtain ⟨others, hbefore, hafter⟩ := texts_store_of_some hplace hchild (combine old value)
      rw [texts_adapt] at hbefore
      refine .added hopen (fun _ hold => hpush ?_) ?_
      · rw [← Option.some.injEq, ← hold.1, List.getLast?_singleton]
      · rw [hinsert]
        simp only [if_neg hpush, hafter, texts_combine, hbefore, add_assoc]

/-- An empty container takes every value. -/
theorem Change.texts_fresh {value after : Json} {next : Key} {rest : List Key}
    (h : Change value (next :: rest) (freshFor next) after) : texts after = texts value := by
  cases h with
  | blocked hblocked _ =>
    obtain ⟨child, hstep, -⟩ := (blocked_cons (isContainer_freshFor next)).1 hblocked
    rw [stepTo?_freshFor] at hstep
    cases hstep
  | displaced hold _ _ =>
    obtain ⟨child, hstep, -⟩ := Option.bind_eq_some_iff.1 hold.2
    rw [stepTo?_freshFor] at hstep
    cases hstep
  | added _ _ htexts => rw [htexts, texts_freshFor, zero_add]

theorem change_insert (value : Json) (key : Key) (way : List Key) {node : Json}
    (hnode : isContainer node = true) :
    Change value (key :: way) node (insert value (key :: way) node) := by
  induction way generalizing key node with
  | nil => exact change_last hnode value key
  | cons next rest ih =>
    obtain ⟨place, hplace, hchild, hinsert⟩ := insert_longer hnode value key next rest
    cases hstep : stepTo? key node with
    | none =>
      rw [hstep] at hchild hinsert
      have hfresh := (ih next (isContainer_freshFor next)).texts_fresh
      refine .added ?_ ?_ ?_
      · rw [blocked_cons hnode, hstep]
        simp
      · intro old
        rw [displaces_cons, hstep]
        simp
      · rw [hinsert, texts_store_of_none hplace hchild, texts_adapt, hfresh]
    | some child =>
      rw [hstep] at hchild hinsert
      by_cases hcontainer : isContainer child = true
      · obtain ⟨others, hbefore, hafter⟩ :=
          texts_store_of_some hplace hchild (insert value (next :: rest) child)
        rw [texts_adapt] at hbefore
        simp only [if_pos hcontainer] at hinsert
        have hblocked : Blocked (key :: next :: rest) node ↔ Blocked (next :: rest) child := by
          rw [blocked_cons hnode, hstep]
          simp
        have hdisplaces : ∀ old, Displaces (key :: next :: rest) node old ↔
            Displaces (next :: rest) child old := by
          intro old
          rw [displaces_cons, hstep]
          simp
        rw [hinsert]
        cases ih next hcontainer with
        | blocked hb ht => exact .blocked (hblocked.2 hb) (by rw [hafter, ht, hbefore])
        | @displaced old inner hd hin hout =>
          have hlost : texts node = others + inner + texts old := by rw [hbefore, hin, add_assoc]
          refine .displaced ((hdisplaces old).2 hd) hlost ?_
          rw [hafter, hout, add_assoc]
        | added hb hd ht =>
          refine .added (mt hblocked.1 hb) (fun old => mt (hdisplaces old).1 (hd old)) ?_
          rw [hafter, ht, hbefore, add_assoc]
      · simp only [if_neg hcontainer] at hinsert
        refine .blocked ?_ ?_
        · rw [blocked_cons hnode]
          have hscalar : isContainer child = false := by simpa using hcontainer
          exact ⟨child, hstep, [], next :: rest, child, rfl, List.cons_ne_nil _ _, rfl, hscalar⟩
        · rw [hinsert, texts_adapt]

end TrackerTraffic.QueryString
