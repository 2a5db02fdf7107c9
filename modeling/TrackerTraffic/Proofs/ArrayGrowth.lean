import TrackerTraffic.Proofs.TargetFrame

/-!
# Arrays that grow

A position behind the end of an array makes the array longer, with nulls up to the position.  The
new length is a word of 64 bits, and for the last position that a target can name it wraps around
to zero: the array is emptied, and the write is refused.  Every other write keeps all arrays beside
its place, with all their items.
-/

namespace TrackerTraffic.Target

/-! ### Lengths in words -/

/-- The greatest position that a target can name. -/
def lastPosition : Nat := 2 ^ 64 - 1

/-- The length that an array takes on for a position behind its end, a word of 64 bits. -/
def lengthFor (position : Nat) : Nat := (position + 1) % pow2 64

theorem lengthFor_eq_iff {p : Nat} (h : p < 2 ^ 64) : lengthFor p = p + 1 ↔ p ≠ lastPosition := by
  show (p + 1) % 2 ^ 64 = p + 1 ↔ p ≠ 2 ^ 64 - 1
  omega

theorem makeRoom_behind_end {p : Nat} {items : List Json} (h : items.length ≤ p) :
    makeRoom (.position p) (.array items) =
      (.array (resize items (lengthFor p)), (resize items (lengthFor p))[p]?) := by
  simp only [makeRoom, if_pos h, lengthFor]

/-- The length for the last position is zero: all items go, and there is no room. -/
theorem makeRoom_lastPosition {items : List Json} (h : items.length ≤ lastPosition) :
    makeRoom (.position lastPosition) (.array items) = (.array [], none) := by
  have hlength : lengthFor lastPosition = 0 := rfl
  have hresize : resize items 0 = [] := by simp [resize]
  rw [makeRoom_behind_end h, hlength, hresize]
  rfl

theorem fits_of_keyOf {piece : List Char} {key : Key} (h : keyOf piece = .ok key) : key.Fits := by
  obtain ⟨-, ⟨p, rfl, -, -, hp⟩ | ⟨rfl, -⟩⟩ := keyOf_cases h
  · exact hp
  · trivial

theorem fits_of_mapM_keyOf {pieces : List (List Char)} {keys : List Key}
    (h : pieces.mapM keyOf = .ok keys) : ∀ key ∈ keys, key.Fits := by
  induction pieces generalizing keys with
  | nil =>
    obtain rfl := Except.ok.inj h
    exact List.forall_mem_nil _
  | cons piece pieces ih =>
    obtain ⟨key, rest, hkey, hrest, rfl⟩ := mapM_keyOf_cons h
    exact List.forall_mem_cons.2 ⟨fits_of_keyOf hkey, ih hrest⟩

theorem fits_of_parse {source : String} {target : Target} (h : parse source = .ok target) :
    ∀ key ∈ target.keys, key.Fits :=
  fits_of_mapM_keyOf (readKeys_spec (readKeys_of_parse h)).2

/-! ### Room for a key -/

/-- Room has been made for a key: something stands there, and all that stood in the container before
stands in it still. -/
structure HasRoom (key : Key) (root roomy there : Json) : Prop where
  found : find? key roomy = some there
  before : there = (find? key root).getD .null
  kept : ∀ other v, find? other root = some v → find? other roomy = some v
  grown : Grown root roomy

theorem isContainer_of_find? {key : Key} {root v : Json} (h : find? key root = some v) :
    isContainer root = true := by
  cases root with
  | array items => rfl
  | object members => rfl
  | _ => cases h

theorem HasRoom.of_find? {key : Key} {root v : Json} (h : find? key root = some v) :
    HasRoom key root root v where
  found := h
  before := by rw [h, Option.getD_some]
  kept := fun _ _ hother => hother
  grown := .refl (isContainer_of_find? h)

theorem hasRoom_padded {p : Nat} {items : List Json} (h : items.length ≤ p) :
    HasRoom (.position p) (.array items) (.array (padded p items)) .null where
  found := by
    have hlast : p < (padded p items).length := by
      rw [length_padded]
      omega
    rcases getElem?_padded_cases p p items with hsame | ⟨-, hnull⟩
    · rw [List.getElem?_eq_none h, List.getElem?_eq_none_iff] at hsame
      omega
    · exact hnull
  before := by
    have hnone : find? (.position p) (.array items) = none := List.getElem?_eq_none h
    rw [hnone, Option.getD_none]
  kept := by
    intro other v hother
    cases other with
    | name s => cases hother
    | position q =>
      rcases getElem?_padded_cases p q items with hsame | ⟨hlength, -⟩
      · exact hsame.trans hother
      · have hnone : items[q]? = none := List.getElem?_eq_none hlength
        exact absurd (hnone.symm.trans hother) (by simp)
  grown := by
    show items.length ≤ (padded p items).length
    rw [length_padded]
    exact Nat.le_max_left _ _

theorem hasRoom_insert {key : Key} {members : Json.Members}
    (h : Json.lookup key.text members = none) :
    HasRoom key (.object members) (.object (Json.insert key.text .null members)) .null where
  found := Json.lookup_insert_self key.text .null members
  before := by
    have hnone : find? key (.object members) = none := h
    rw [hnone, Option.getD_none]
  kept := by
    intro other v hother
    have hne : key.text ≠ other.text := by
      intro heq
      have hv : Json.lookup other.text members = some v := hother
      rw [← heq, h] at hv
      cases hv
    exact (Json.lookup_insert_of_ne hne .null members).trans hother
  grown := names_insert key.text .null members

/-- All that making room can do. -/
theorem makeRoom_cases {key : Key} (hkey : key.Fits) (root : Json) :
    makeRoom key root = (root, none) ∨
      (key = .position lastPosition ∧ ∃ items, root = .array items ∧
        items.length ≤ lastPosition ∧ makeRoom key root = (.array [], none)) ∨
      ∃ roomy there, makeRoom key root = (roomy, some there) ∧ HasRoom key root roomy there := by
  cases root with
  | array items =>
    cases key with
    | name s => exact .inl rfl
    | position p =>
      by_cases hinside : p < items.length
      · have hfound : find? (.position p) (.array items) = some items[p] :=
          List.getElem?_eq_getElem hinside
        exact .inr (.inr ⟨_, _, makeRoom_of_find? hfound, .of_find? hfound⟩)
      · have hlength := Nat.le_of_not_lt hinside
        by_cases hlast : p = lastPosition
        · subst hlast
          exact .inr (.inl ⟨rfl, items, rfl, hlength, makeRoom_lastPosition hlength⟩)
        · have hbounded : (Key.position p).Bounded := by
            have hp : p < 2 ^ 64 := hkey
            show p + 1 < 2 ^ 64
            have hne : p ≠ 2 ^ 64 - 1 := hlast
            omega
          have hroom := hasRoom_padded hlength
          have hmade := makeRoom_array hbounded items
          rw [child_of_opens hbounded rfl, ← hroom.before] at hmade
          exact .inr (.inr ⟨_, _, hmade, hroom⟩)
  | object members =>
    cases hlookup : Json.lookup key.text members with
    | none =>
      have hmade : makeRoom key (.object members) =
          (.object (Json.insert key.text .null members), some .null) := by
        simp only [makeRoom, hlookup]
      exact .inr (.inr ⟨_, _, hmade, hasRoom_insert hlookup⟩)
    | some v => exact .inr (.inr ⟨_, _, makeRoom_of_find? hlookup, .of_find? hlookup⟩)
  | _ => exact .inl rfl

/-! ### Putting a value where there is room -/

theorem find?_put_self {key : Key} {roomy there : Json} (h : find? key roomy = some there)
    (value : Json) : find? key (put key value roomy) = some value := by
  cases roomy with
  | array items =>
    cases key with
    | name s => cases h
    | position p =>
      obtain ⟨hp, -⟩ := List.getElem?_eq_some_iff.1 h
      exact List.getElem?_set_self hp
  | object members => exact Json.lookup_insert_self key.text value members
  | _ => cases h

theorem find?_put_of_ne {key other : Key} (hne : key.text ≠ other.text) (value roomy : Json) :
    find? other (put key value roomy) = find? other roomy := by
  cases roomy with
  | array items =>
    cases key with
    | name s => rfl
    | position p =>
      cases other with
      | name t => rfl
      | position q =>
        have hpq : p ≠ q := fun heq => hne (congrArg (fun n => (Key.position n).text) heq)
        exact List.getElem?_set_ne hpq
  | object members => exact Json.lookup_insert_of_ne hne value members
  | _ => rfl

/-- Two keys of one text at which something stands in a container are the same key there. -/
theorem find?_congr {key other : Key} (htext : key.text = other.text) {root v w : Json}
    (h : find? key root = some v) (hother : find? other root = some w) (root' : Json) :
    find? other (put key root' root) = find? key (put key root' root) ∧ v = w := by
  cases root with
  | array items =>
    cases key with
    | name s => cases h
    | position p =>
      cases other with
      | name t => cases hother
      | position q =>
        obtain rfl := position_eq_of_text htext
        exact ⟨rfl, Option.some.inj (h.symm.trans hother)⟩
  | object members =>
    rw [find?, htext] at h
    refine ⟨?_, Option.some.inj (h.symm.trans hother)⟩
    rw [put, find?, find?, htext]
  | _ => cases h

theorem grown_put {key : Key} {roomy there : Json} (h : find? key roomy = some there)
    (value : Json) : Grown roomy (put key value roomy) := by
  cases roomy with
  | array items =>
    cases key with
    | name s => cases h
    | position p =>
      show items.length ≤ (items.set p value).length
      rw [List.length_set]
  | object members => exact names_insert key.text value members
  | _ => cases h

theorem Grown.trans {a b c : Json} (h : Grown a b) (h' : Grown b c) : Grown a c := by
  cases a with
  | array items =>
    obtain ⟨items', rfl, hlength⟩ := h.exists_items
    obtain ⟨items'', rfl, hlength'⟩ := h'.exists_items
    exact Nat.le_trans hlength hlength'
  | object members =>
    obtain ⟨members', rfl, hnames⟩ := h.exists_members
    obtain ⟨members'', rfl, hnames'⟩ := h'.exists_members
    exact hnames.trans hnames'
  | _ => exact absurd h id

/-! ### Items that are kept -/

/-- What a write at the keys may make of an item at a place: it stays what it is, unless the keys end
at the place, or lead on from there; then it was `null` or is a container that has grown at most. -/
def ItemKept (keys place : List Key) (item item' : Json) : Prop :=
  item' = item ∨ place.map Key.text = keys.map Key.text ∨
    place.map Key.text <+: keys.map Key.text ∧ (item = .null ∨ Grown item item')

/-- Every array that stands neither at the end of the keys nor below it still stands there, with all
its items. -/
def KeepsItems (keys : List Key) (root root' : Json) : Prop :=
  ∀ way items, ¬ keys.map Key.text <+: way.map Key.text → follow? way root = some (.array items) →
    ∃ items', follow? way root' = some (.array items') ∧ ∀ q item, items[q]? = some item →
      ∃ item', items'[q]? = some item' ∧ ItemKept keys (way ++ [.position q]) item item'

theorem KeepsItems.refl (keys : List Key) (root : Json) : KeepsItems keys root root :=
  fun _ items _ hfollow => ⟨items, hfollow, fun _ item hitem => ⟨item, hitem, .inl rfl⟩⟩

theorem keepsItems_nil (root root' : Json) : KeepsItems [] root root' :=
  fun _ _ hway => absurd List.nil_prefix hway

theorem ItemKept.cons {key other : Key} (htext : key.text = other.text) {rest place : List Key}
    {item item' : Json} (h : ItemKept rest place item item') :
    ItemKept (key :: rest) (other :: place) item item' := by
  simpa only [ItemKept, List.map_cons, htext, List.cons.injEq, List.cons_prefix_cons, true_and]
    using h

theorem fillNull_of_follow? {way : List Key} {v : Json} {items : List Json}
    (h : follow? way v = some (.array items)) : fillNull v = v ∧ isContainer v = true := by
  cases way with
  | nil =>
    obtain rfl := Option.some.inj h
    exact ⟨rfl, rfl⟩
  | cons key rest =>
    obtain ⟨w, hw, -⟩ := Option.bind_eq_some_iff.1 h
    have hcontainer := isContainer_of_find? hw
    refine ⟨?_, hcontainer⟩
    cases v with
    | null => cases hcontainer
    | _ => rfl

/-- The item at the key itself: the keys end there or lead on from there. -/
theorem itemKept_here {key other : Key} (htext : key.text = other.text) {rest : List Key}
    {item below : Json} (hgrown : rest ≠ [] → Grown (fillNull item) below) :
    ItemKept (key :: rest) [other] item below := by
  by_cases hlast : rest = []
  · subst hlast
    exact .inr (.inl (by rw [List.map_cons, List.map_cons, htext]))
  · refine .inr (.inr ⟨?_, ?_⟩)
    · rw [List.map_cons, List.map_cons, htext, List.cons_prefix_cons]
      exact ⟨rfl, List.nil_prefix⟩
    · cases item with
      | null => exact .inl rfl
      | _ => exact .inr (hgrown hlast)

/-- One key of a write: what is kept below the key is kept in the container. -/
theorem keepsItems_put {key : Key} {rest : List Key} {root roomy there below : Json}
    (hroom : HasRoom key root roomy there) (hbelow : KeepsItems rest (fillNull there) below)
    (hgrown : rest ≠ [] → Grown (fillNull there) below) :
    KeepsItems (key :: rest) root (put key below roomy) := by
  -- whatever stood in the container stands there still, but for what the key leads to
  have hbeside : ∀ other v, find? other root = some v → key.text ≠ other.text →
      find? other (put key below roomy) = some v := by
    intro other v hv hne
    rw [find?_put_of_ne hne, hroom.kept other v hv]
  have hhere : ∀ other v, find? other root = some v → key.text = other.text →
      find? other (put key below roomy) = some below ∧ there = v := by
    intro other v hv htext
    obtain ⟨hsame, hvalue⟩ := find?_congr htext hroom.found (hroom.kept other v hv) below
    rw [hsame]
    exact ⟨find?_put_self hroom.found below, hvalue⟩
  intro way items hway hfollow
  cases way with
  | nil =>
    obtain rfl := Option.some.inj hfollow
    obtain ⟨items', hput, -⟩ := (hroom.grown.trans (grown_put hroom.found below)).exists_items
    rw [hput] at hbeside hhere ⊢
    refine ⟨items', rfl, fun q item hitem => ?_⟩
    by_cases htext : key.text = (Key.position q).text
    · obtain ⟨hafter, rfl⟩ := hhere (.position q) item hitem htext
      exact ⟨below, hafter, itemKept_here htext hgrown⟩
    · exact ⟨item, hbeside (.position q) item hitem htext, .inl rfl⟩
  | cons other later =>
    obtain ⟨v, hv, hlater⟩ := Option.bind_eq_some_iff.1 hfollow
    by_cases htext : key.text = other.text
    · obtain ⟨hafter, rfl⟩ := hhere other v hv htext
      rw [(fillNull_of_follow? hlater).1] at hbelow
      have htail : ¬ rest.map Key.text <+: later.map Key.text := by
        rwa [List.map_cons, List.map_cons, htext, List.cons_prefix_cons, eq_self, true_and] at hway
      obtain ⟨items', hitems', hkept⟩ := hbelow later items htail hlater
      refine ⟨items', by rw [follow?, hafter, Option.bind_some, hitems'], fun q item hitem => ?_⟩
      obtain ⟨item', hitem', hitemKept⟩ := hkept q item hitem
      exact ⟨item', hitem', hitemKept.cons htext⟩
    · have hsame := hbeside other v hv htext
      exact ⟨items, by rw [follow?, hsame, Option.bind_some, hlater],
        fun q item hitem => ⟨item, hitem, .inl rfl⟩⟩

/-! ### Whole writes -/

/-- The last position lies behind the end of the array to which the front of the keys leads. -/
def Overruns (keys front : List Key) (root : Json) (items : List Json) : Prop :=
  (∃ back, keys = front ++ .position lastPosition :: back) ∧
    follow? front root = some (.array items) ∧ items.length ≤ lastPosition

theorem overruns_cons {key : Key} {rest front : List Key} {root : Json} {items : List Json}
    (h : Overruns rest front (fillNull ((find? key root).getD .null)) items) :
    Overruns (key :: rest) (key :: front) root items := by
  obtain ⟨⟨back, rfl⟩, hfollow, hlength⟩ := h
  exact ⟨⟨back, rfl⟩, bind_follow?_of_fillNull (by simp) hfollow, hlength⟩

theorem assignAt_of_no_room {key : Key} {root roomy : Json} (h : makeRoom key root = (roomy, none))
    (value : Json) (rest : List Key) :
    assignAt value (key :: rest) root = (roomy, .conflict) := by
  cases rest with
  | nil => rw [assignAt, h]
  | cons next later =>
    rw [assignAt, h]
    simp

theorem assignAt_of_room {key : Key} {root roomy there : Json}
    (h : makeRoom key root = (roomy, some there)) (value : Json) {rest : List Key}
    (hrest : rest ≠ []) :
    assignAt value (key :: rest) root =
      if isContainer (fillNull there) then
        let below := assignAt value rest (fillNull there)
        (put key below.1 roomy, below.2)
      else (roomy, .conflict) := by
  rw [assignAt]
  · rw [h]
  · simpa using hrest

/-- A write keeps all items unless it overruns an array that has some. -/
theorem keepsItems_assignAt {keys : List Key} (hkeys : ∀ key ∈ keys, key.Fits) {root : Json}
    (h : ∀ front items, Overruns keys front root items → items = []) (value : Json) :
    KeepsItems keys root (assignAt value keys root).1 ∧
      (isContainer root = true → Grown root (assignAt value keys root).1) := by
  induction keys generalizing root with
  | nil => exact ⟨.refl _ _, .refl⟩
  | cons key rest ih =>
    obtain ⟨hkey, hrest⟩ := List.forall_mem_cons.1 hkeys
    have hsame : KeepsItems (key :: rest) root root ∧ (isContainer root = true → Grown root root) :=
      ⟨.refl _ _, .refl⟩
    rcases makeRoom_cases hkey root with
      hmade | ⟨rfl, items, rfl, hlength, hmade⟩ | ⟨roomy, there, hmade, hroom⟩
    · rwa [assignAt_of_no_room hmade]
    · obtain rfl := h [] items ⟨⟨rest, rfl⟩, rfl, hlength⟩
      rwa [assignAt_of_no_room hmade]
    · have hput := fun below => hroom.grown.trans (grown_put hroom.found below)
      by_cases hlast : rest = []
      · subst hlast
        rw [assignAt, hmade]
        exact ⟨keepsItems_put hroom (keepsItems_nil _ _) (absurd rfl), fun _ => hput value⟩
      · rw [assignAt_of_room hmade value hlast]
        cases hchild : isContainer (fillNull there) with
        | false =>
          -- a scalar stands in the way, so no room had to be made
          rw [hroom.before] at hchild
          obtain ⟨v, hv, -⟩ := exists_of_fillNull_ne (ne_empty_of_not_isContainer hchild)
          obtain ⟨rfl, -⟩ := Prod.mk.inj (hmade.symm.trans (makeRoom_of_find? hv))
          exact hsame
        | true =>
          have hbelow : ∀ front items, Overruns rest front (fillNull there) items → items = [] := by
            intro front items hoverruns
            rw [hroom.before] at hoverruns
            exact h _ _ (overruns_cons hoverruns)
          obtain ⟨hkeeps, hgrown⟩ := ih hrest hbelow
          exact ⟨keepsItems_put hroom hkeeps fun _ => hgrown hchild, fun _ => hput _⟩

/-- An array that is overrun is empty after the write, which is refused. -/
theorem assignAt_of_overruns {keys front : List Key} {root : Json} {items : List Json}
    (h : Overruns keys front root items) (value : Json) :
    (assignAt value keys root).2 = .conflict ∧
      follow? front (assignAt value keys root).1 = some (.array []) := by
  obtain ⟨⟨back, rfl⟩, hfollow, hlength⟩ := h
  induction front generalizing root with
  | nil =>
    obtain rfl := Option.some.inj hfollow
    rw [List.nil_append, assignAt_of_no_room (makeRoom_lastPosition hlength)]
    exact ⟨rfl, rfl⟩
  | cons key rest ih =>
    obtain ⟨there, hthere, hbelow⟩ := Option.bind_eq_some_iff.1 hfollow
    obtain ⟨hfill, hcontainer⟩ := fillNull_of_follow? hbelow
    obtain ⟨hconflict, hempty⟩ := ih hbelow
    rw [List.cons_append, assignAt_of_room (makeRoom_of_find? hthere) value (by simp), hfill,
      if_pos hcontainer]
    refine ⟨hconflict, ?_⟩
    rw [follow?, find?_put_self hthere, Option.bind_some, hempty]

theorem not_keepsItems_of_overruns {keys front : List Key} {root : Json} {items : List Json}
    (h : Overruns keys front root items) (hne : items ≠ []) (value : Json) :
    ¬ KeepsItems keys root (assignAt value keys root).1 := by
  intro hkeeps
  have hempty := (assignAt_of_overruns h value).2
  obtain ⟨⟨back, hkeys⟩, hfollow, -⟩ := h
  have hway : ¬ keys.map Key.text <+: front.map Key.text := by
    intro hprefix
    have hlength := hprefix.length_le
    simp only [hkeys, List.length_map, List.length_append, List.length_cons] at hlength
    omega
  obtain ⟨items', hitems', hkept⟩ := hkeeps front items hway hfollow
  obtain ⟨first, hfirst⟩ : ∃ first, items[0]? = some first :=
    ⟨_, List.getElem?_eq_getElem (List.length_pos_iff.2 hne)⟩
  obtain ⟨item', hitem', -⟩ := hkept 0 first hfirst
  obtain ⟨rfl⟩ := Option.some.inj (hempty.symm.trans hitems')
  cases hitem'

/-! ### The limit of growth -/

/-- The length that a position of a target asks for wraps around only at the last position there is.
A write keeps all items of all arrays beside its place, but for the items of an array that it
overruns there; such an array is empty afterwards, and the write is refused. -/
theorem keepsItems_assign_iff {source : String} {target : Target} (hparse : parse source = .ok target)
    (root value : Json) :
    (∀ p, Key.position p ∈ target.keys → (lengthFor p = p + 1 ↔ p ≠ lastPosition)) ∧
    (KeepsItems target.keys root (target.assign root value).1 ↔
      ∀ front items, Overruns target.keys front root items → items = []) ∧
    ∀ front items, Overruns target.keys front root items →
      (target.assign root value).2 = .conflict ∧
        follow? front (target.assign root value).1 = some (.array []) := by
  have hkeys := fits_of_parse hparse
  refine ⟨fun p hp => lengthFor_eq_iff (hkeys _ hp), ⟨fun hkeeps front items h => ?_, fun h => ?_⟩,
    fun front items h => assignAt_of_overruns h value⟩
  · by_contra hne
    exact not_keepsItems_of_overruns h hne value hkeeps
  · exact (keepsItems_assignAt hkeys h value).1

/-- A write behind the end of an inner array: all three items of the two arrays are kept. -/
theorem keepsItems_assign_inner :
    let root : Json := .object [("a", .array [.string "x", .array [.string "y", .null]])]
    let root' : Json := .object
      [("a", .array [.string "x", .array [.string "y", .null, .null, .bool true]])]
    ∃ target, parse "a[1].3" = .ok target ∧ target.assign root (.bool true) = (root', .written) ∧
      lengthFor 3 = 4 ∧ KeepsItems target.keys root root' := by
  intro root root'
  have hparse : parse "a[1].3" = .ok ⟨"a[1].3", [.name "a", .position 1, .position 3]⟩ := by
    decide +kernel
  obtain ⟨hlengths, hkeeps, -⟩ := keepsItems_assign_iff hparse root (.bool true)
  refine ⟨_, hparse, rfl, (hlengths 3 (by simp)).2 (by decide), hkeeps.2 ?_⟩
  rintro front items ⟨⟨back, hkeys⟩, -⟩
  have hlast : Key.position lastPosition ∈ front ++ .position lastPosition :: back :=
    List.mem_append_right _ List.mem_cons_self
  rw [← hkeys] at hlast
  simp [lastPosition] at hlast

/-- The last position asks for no items at all, and the one item of the array is lost. -/
theorem not_keepsItems_lastPosition :
    let root : Json := .object [("a", .array [.string "x"])]
    ∃ target, parse "a.18446744073709551615" = .ok target ∧
      target.keys = [.name "a", .position lastPosition] ∧ lengthFor lastPosition = 0 ∧
      target.assign root (.bool true) = (.object [("a", .array [])], .conflict) ∧
      ¬ KeepsItems target.keys root (target.assign root (.bool true)).1 := by
  intro root
  have hparse : parse "a.18446744073709551615" =
      .ok ⟨"a.18446744073709551615", [.name "a", .position lastPosition]⟩ := by
    decide +kernel
  have hoverruns : Overruns [.name "a", .position lastPosition] [.name "a"] root [.string "x"] :=
    ⟨⟨[], rfl⟩, rfl, by decide⟩
  exact ⟨_, hparse, rfl, rfl, rfl, not_keepsItems_of_overruns hoverruns (by simp) _⟩

end TrackerTraffic.Target
