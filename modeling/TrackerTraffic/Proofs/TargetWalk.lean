import TrackerTraffic.Path.Query
import TrackerTraffic.Path.Target
import TrackerTraffic.Proofs.Decimal
import TrackerTraffic.Proofs.JsonMembers

/-!
# Reading what was written

A key of a write target and a segment of a read path name the same place if they
name the same member: keys that count positions then also count the same items.
A path of such segments finds exactly what was written at the keys.  The write
into an empty object shows the converse, for it leaves nothing else to find.
-/

namespace TrackerTraffic

/-! ### Names of places -/

/-- The name that a segment stands for in objects, if it stands for one. -/
def Path.Segment.member? : Path.Segment → Option String
  | .child name => some name
  | .index i => some (toString i)
  | _ => none

namespace Target

def Key.Fits : Key → Prop
  | .name _ => True
  | .position p => p < 2 ^ 64

/-- The segment names the place that the key names. -/
def Key.SamePlace (key : Key) (segment : Path.Segment) : Prop :=
  key.Fits ∧ segment.member? = some key.text

theorem eq_of_toString_eq {i : Int} {n : Nat} (h : toString i = toString n) : i = n := by
  have htext := Text.int_toString_toList i
  rw [h] at htext
  split at htext
  · have hdigits := Text.digits?_toString i.toNat
    rw [← htext, Text.digits?_toString, Option.some.injEq] at hdigits
    omega
  · have hminus : '-' ∈ (toString n).toList := by
      rw [htext]
      exact List.mem_cons_self
    exact absurd (Text.isDigit_of_mem_toString hminus) (by decide)

theorem member?_cases {segment : Path.Segment} {name : String} (h : segment.member? = some name) :
    segment = .child name ∨ ∃ i : Int, segment = .index i ∧ name = toString i := by
  cases segment with
  | child text =>
    obtain rfl : text = name := Option.some.inj h
    exact .inl rfl
  | index i => exact .inr ⟨i, rfl, (Option.some.inj h).symm⟩
  | wildcard => cases h
  | filter condition => cases h
  | descendant inner => cases h

theorem select_object {segment : Path.Segment} {name : String}
    (h : segment.member? = some name) (members : Json.Members) :
    segment.select (.object members) = (Json.lookup name members).toList := by
  rcases member?_cases h with rfl | ⟨i, rfl, rfl⟩
  · rfl
  · rfl

theorem select_null {segment : Path.Segment} {name : String} (h : segment.member? = some name) :
    segment.select .null = [] := by
  rcases member?_cases h with rfl | ⟨i, rfl, rfl⟩
  · rfl
  · rfl

theorem select_array {p : Nat} {segment : Path.Segment} (h : (Key.position p).SamePlace segment)
    (items : List Json) : segment.select (.array items) = items[p]?.toList := by
  obtain ⟨hfits, hname⟩ := h
  rcases member?_cases hname with rfl | ⟨i, rfl, htext⟩
  · have hread : Text.unsigned? (Key.position p).text.toList = some p :=
      Text.unsigned?_toString hfits
    simp only [Path.Segment.select, Path.childNamed, hread, Option.bind_some]
  · obtain rfl : i = p := eq_of_toString_eq htext.symm
    have hpositive : ¬(p : Int) < 0 := by omega
    simp only [Path.Segment.select, Path.childAt, Path.itemAt?, if_neg hpositive, Int.toNat_natCast]

/-! ### One step -/

/-- What is put where room was made is all that the segment leads to. -/
theorem select_put {key : Key} {segment : Path.Segment} (h : key.SamePlace segment)
    {root roomy child : Json} (hroom : makeRoom key root = (roomy, some child)) (value : Json) :
    segment.select (put key value roomy) = [value] := by
  cases root with
  | object members =>
    have hobject : ∃ others, roomy = .object others := by
      simp only [makeRoom] at hroom
      split at hroom
      · exact ⟨_, (Prod.mk.inj hroom).1.symm⟩
      · exact ⟨_, (Prod.mk.inj hroom).1.symm⟩
    obtain ⟨others, rfl⟩ := hobject
    rw [put, select_object h.2, Json.lookup_insert_self, Option.toList_some]
  | array items =>
    cases key with
    | name text => exact absurd (Prod.mk.inj hroom).2 (by simp)
    | position p =>
      obtain ⟨rfl, hitem⟩ := Prod.mk.inj hroom
      obtain ⟨hp, -⟩ := List.getElem?_eq_some_iff.1 hitem
      rw [put, select_array h, List.getElem?_set_self hp, Option.toList_some]
  | null => exact absurd (Prod.mk.inj hroom).2 (by simp)
  | bool b => exact absurd (Prod.mk.inj hroom).2 (by simp)
  | number n => exact absurd (Prod.mk.inj hroom).2 (by simp)
  | string s => exact absurd (Prod.mk.inj hroom).2 (by simp)

/-! ### Whole ways -/

theorem selectAll_cons (segment : Path.Segment) (rest : List Path.Segment) (root : Json) :
    Path.selectAll (segment :: rest) [root] = Path.selectAll rest (segment.select root) := by
  simp [Path.selectAll]

theorem selectAll_nil_values (segments : List Path.Segment) : Path.selectAll segments [] = [] := by
  induction segments with
  | nil => rfl
  | cons segment rest ih => exact ih

/-- Segments that name the places of the keys find exactly what was written. -/
theorem selectAll_assignAt {keys : List Key} {segments : List Path.Segment}
    (h : List.Forall₂ Key.SamePlace keys segments) {root root' value : Json}
    (hwritten : assignAt value keys root = (root', .written)) :
    Path.selectAll segments [root'] = [value] := by
  induction h generalizing root root' with
  | nil => exact absurd (Prod.mk.inj hwritten).2 (by decide)
  | @cons key segment keys segments hplace hrest ih =>
    cases hrest with
    | nil =>
      rw [assignAt] at hwritten
      split at hwritten
      · rename_i roomy child hroom
        obtain rfl := (Prod.mk.inj hwritten).1
        rw [selectAll_cons, select_put hplace hroom]
        rfl
      · exact absurd (Prod.mk.inj hwritten).2 (by decide)
    | @cons next _ keys _ hnext hlater =>
      rw [assignAt] at hwritten
      · split at hwritten
        · exact absurd (Prod.mk.inj hwritten).2 (by decide)
        · rename_i roomy child hroom
          split at hwritten
          · obtain ⟨rfl, hresult⟩ := Prod.mk.inj hwritten
            rw [selectAll_cons, select_put hplace hroom]
            exact ih (Prod.ext rfl hresult)
          · exact absurd (Prod.mk.inj hwritten).2 (by decide)
      · simp

/-! ### Writing into nothing -/

/-- Objects inside one another, each with one member. -/
def chain : List Key → Json → Json
  | [], v => v
  | key :: rest, v => .object [(key.text, chain rest v)]

theorem assignAt_empty (key : Key) (keys : List Key) (value : Json) :
    assignAt value (key :: keys) (.object []) = (chain (key :: keys) value, .written) := by
  induction keys generalizing key with
  | nil => simp [assignAt, makeRoom, Json.lookup, put, Json.insert, chain]
  | cons next rest ih =>
    rw [assignAt]
    · simp [makeRoom, Json.lookup, fillNull, isContainer, ih next, put, Json.insert, chain]
    · simp

theorem selectAll_chain {segment : Path.Segment} {segments : List Path.Segment} {keys : List Key}
    {name : String} (hname : segment.member? = some name)
    (h : Path.selectAll (segment :: segments) [chain keys .null] = [.null]) :
    ∃ key rest, keys = key :: rest ∧ name = key.text ∧
      Path.selectAll segments [chain rest .null] = [.null] := by
  rw [selectAll_cons] at h
  cases keys with
  | nil =>
    rw [chain, select_null hname, selectAll_nil_values] at h
    exact absurd h (by simp)
  | cons key rest =>
    rw [chain, select_object hname, Json.lookup] at h
    split at h
    · rename_i heq
      exact ⟨key, rest, rfl, heq.symm, h⟩
    · rw [Json.lookup, Option.toList_none, selectAll_nil_values] at h
      exact absurd h (by simp)

theorem eq_nil_of_selectAll_chain {keys : List Key}
    (h : Path.selectAll [] [chain keys .null] = [.null]) : keys = [] := by
  cases keys with
  | nil => rfl
  | cons key rest =>
    have hroot : chain (key :: rest) .null = .null := (List.cons.inj h).1
    exact absurd hroot (by simp [chain])

end Target

end TrackerTraffic
