import TrackerTraffic.Proofs.Grouping
import TrackerTraffic.Proofs.QueryLosses

/-!
# Flat query strings

A name without an opening bracket is a single step, whatever else it holds.  Pairs of such names
are grouped: the members stand in the order in which their names first occur, each with the text of
its value or with the array of the texts of all its values.
-/

namespace TrackerTraffic.QueryString

/-! ### Entering flat pairs -/

def entryOf (pair : List Char × List Char) : String × Json :=
  (String.ofList pair.1, .string (String.ofList pair.2))

theorem combine_eq_beside (existing value : Json) :
    combine existing value = existing.beside value := by
  cases existing <;> rfl

section Entering

variable {pairs : List (List Char × List Char)}

theorem enter_flat {pair : List Char × List Char} (hflat : '[' ∉ pair.1) (hname : pair.1 ≠ [])
    (members : Json.Members) :
    enter (.object members) pair = .object (Json.gather members (entryOf pair)) := by
  have hadapt : adapt (.name pair.1) (.object members) = .object members := rfl
  rw [enter, if_neg (by simpa using hname), readKey_of_not_mem hflat, insert, setLeaf, hadapt]
  simp only [place?, child?, Json.gather, entryOf]
  cases Json.lookup (String.ofList pair.1) members with
  | none => rfl
  | some existing => simp only [reduceCtorEq, if_false, store, combine_eq_beside]

theorem treeOf_flat (hflat : ∀ pair ∈ pairs, '[' ∉ pair.1) (hnames : ∀ pair ∈ pairs, pair.1 ≠ []) :
    treeOf pairs = .object (Json.groups (pairs.map entryOf)) := by
  have hmembers : treeOf pairs = .object ((pairs.map entryOf).foldl Json.gather []) := by
    induction pairs using List.reverseRecOn with
    | nil => rfl
    | append_singleton front pair ih =>
      have hpair : pair ∈ front ++ [pair] := List.mem_append_right _ List.mem_cons_self
      have hfront := ih (fun p hp => hflat p (List.mem_append_left _ hp))
        (fun p hp => hnames p (List.mem_append_left _ hp))
      rw [treeOf_append, hfront, List.foldl_cons, List.foldl_nil,
        enter_flat (hflat pair hpair) (hnames pair hpair), List.map_append, List.foldl_append]
      rfl
  have hsingle : ∀ entry ∈ pairs.map entryOf, ∀ items, entry.2 ≠ .array items := by
    intro entry hentry items
    obtain ⟨pair, -, rfl⟩ := List.mem_map.1 hentry
    simp [entryOf]
  rw [hmembers, Json.foldl_gather hsingle]

theorem texts_treeOf_flat (hflat : ∀ pair ∈ pairs, '[' ∉ pair.1)
    (hnames : ∀ pair ∈ pairs, pair.1 ≠ []) :
    texts (treeOf pairs) = (pairs.map Prod.snd : List (List Char)) := by
  induction pairs using List.reverseRecOn with
  | nil => rfl
  | append_singleton front pair ih =>
    have hpair : pair ∈ front ++ [pair] := List.mem_append_right _ List.mem_cons_self
    have hfront := ih (fun p hp => hflat p (List.mem_append_left _ hp))
      (fun p hp => hnames p (List.mem_append_left _ hp))
    have htree := isContainer_treeOf front
    have hchange := change_enter htree (hnames pair hpair)
    rw [readKey_of_not_mem (hflat pair hpair)] at hchange
    rw [treeOf_append, List.foldl_cons, List.foldl_nil, List.map_append, ← Multiset.coe_add,
      ← hfront]
    -- a single step that is a name is neither blocked nor does it displace anything
    cases hchange with
    | blocked hblocked _ => exact absurd hblocked (not_blocked_singleton htree)
    | displaced hold _ _ => exact absurd hold.1 (by simp)
    | added _ _ htexts =>
      rw [htexts, texts_string]
      rfl

end Entering

/-! ### Query strings of named texts -/

def charsOf (pair : String × String) : List Char × List Char := (pair.1.toList, pair.2.toList)

/-- The query string that pairs of texts are written as. -/
def written (pairs : List (String × String)) : String :=
  String.ofList (Form.encode (pairs.map charsOf))

def valuesUnder (name : String) (pairs : List (String × String)) : List String :=
  (pairs.filter (·.1 = name)).map Prod.snd

def named (pairs : List (String × String)) : List (String × String) := pairs.filter (·.1 ≠ "")

theorem namedPairs_written (pairs : List (String × String)) :
    namedPairs (written pairs) = (named pairs).map charsOf := by
  rw [namedPairs, written, String.toList_ofList,
    afterQuestionMark_of_not_mem (Form.not_mem_encode _), Form.decode_encode, named,
    List.filter_map]
  refine congrArg _ (List.filter_congr fun pair _ => ?_)
  by_cases hname : pair.1 = ""
  · simp [charsOf, hname]
  · simp [charsOf, hname]

def entriesOf (pairs : List (String × String)) : List (String × Json) :=
  (named pairs).map fun pair => (pair.1, .string pair.2)

theorem map_entryOf_named (pairs : List (String × String)) :
    ((named pairs).map charsOf).map entryOf = entriesOf pairs := by
  simp [entriesOf, charsOf, entryOf]

theorem names_groups_entriesOf (pairs : List (String × String)) :
    (Json.groups (entriesOf pairs)).map Prod.fst =
      ((pairs.map Prod.fst).filter (· ≠ "")).eraseDups := by
  have hnames : (entriesOf pairs).map Prod.fst = (pairs.map Prod.fst).filter (· ≠ "") := by
    rw [entriesOf, List.map_map, named, List.filter_map]
    rfl
  rw [Json.names_groups, hnames]

theorem filter_named {name : String} (hname : name ≠ "") (pairs : List (String × String)) :
    (named pairs).filter (·.1 = name) = pairs.filter (·.1 = name) := by
  rw [named, List.filter_filter]
  refine List.filter_congr fun pair _ => ?_
  by_cases hpair : pair.1 = name
  · simp [hpair, hname]
  · simp [hpair]

theorem valuesOf_entriesOf {name : String} (hname : name ≠ "") (pairs : List (String × String)) :
    Json.valuesOf name (entriesOf pairs) = (valuesUnder name pairs).map .string := by
  rw [Json.valuesOf, entriesOf, List.filter_map, valuesUnder, List.map_map, List.map_map,
    ← filter_named hname]
  rfl

theorem lookup_groups_entriesOf {name : String} (hname : name ≠ "")
    {pairs : List (String × String)} (h : valuesUnder name pairs ≠ []) :
    Json.lookup name (Json.groups (entriesOf pairs)) =
      some (Json.grouped ((valuesUnder name pairs).map .string)) := by
  have hvalues : Json.valuesOf name (entriesOf pairs) ≠ [] := by
    rw [valuesOf_entriesOf hname]
    exact mt List.map_eq_nil_iff.1 h
  rw [Json.lookup_groups_of_ne_nil hvalues, valuesOf_entriesOf hname]

theorem parse_written {pairs : List (String × String)}
    (hflat : ∀ pair ∈ pairs, '[' ∉ pair.1.toList) :
    parse (written pairs) = .object (Json.groups (entriesOf pairs)) ∧
      texts (.object (Json.groups (entriesOf pairs))) =
        ((named pairs).map fun pair => pair.2.toList : List (List Char)) := by
  have hopen : ∀ pair ∈ (named pairs).map charsOf, '[' ∉ pair.1 := by
    intro pair hpair
    obtain ⟨p, hp, rfl⟩ := List.mem_map.1 hpair
    exact hflat p (List.mem_filter.1 hp).1
  have hnames : ∀ pair ∈ (named pairs).map charsOf, pair.1 ≠ [] := by
    intro pair hpair
    obtain ⟨p, hp, rfl⟩ := List.mem_map.1 hpair
    have hname : p.1 ≠ "" := of_decide_eq_true (List.mem_filter.1 hp).2
    simpa [charsOf] using hname
  have htree := treeOf_flat hopen hnames
  have htexts := texts_treeOf_flat hopen hnames
  rw [map_entryOf_named] at htree
  rw [htree, List.map_map] at htexts
  rw [parse_eq_treeOf, namedPairs_written]
  exact ⟨htree, htexts⟩

/-- The query string of pairs whose names open no bracket groups their values by name, in the order
of first occurrence: one value as a text, several as an array.  Only pairs without a name are left
out. -/
theorem parse_flat {pairs : List (String × String)}
    (hflat : ∀ pair ∈ pairs, '[' ∉ pair.1.toList) :
    ∃ members, parse (written pairs) = .object members ∧
      members.map Prod.fst = ((pairs.map Prod.fst).filter (· ≠ "")).eraseDups ∧
      (∀ name value, name ≠ "" → valuesUnder name pairs = [value] →
        Json.lookup name members = some (.string value)) ∧
      (∀ name, name ≠ "" → 2 ≤ (valuesUnder name pairs).length →
        Json.lookup name members = some (.array ((valuesUnder name pairs).map .string))) ∧
      texts (.object members) =
        ((pairs.filter (·.1 ≠ "")).map fun pair => pair.2.toList : List (List Char)) := by
  obtain ⟨hparse, htexts⟩ := parse_written hflat
  refine ⟨_, hparse, names_groups_entriesOf pairs, ?_, ?_, htexts⟩
  · intro name value hname hvalue
    rw [lookup_groups_entriesOf hname (by simp [hvalue]), hvalue]
    rfl
  · intro name hname hlength
    match hvalues : valuesUnder name pairs, hlength with
    | first :: second :: rest, _ =>
      rw [lookup_groups_entriesOf hname (by simp [hvalues]), hvalues]
      rfl

/-- Names of digits, signs and a closing bracket; two of them occur again among the others. -/
theorem parse_flat_repeated :
    let pairs := [("7", "x"), ("a]?+", "%"), ("", "lost"), ("7", ""), ("é.b", "="), ("7", "x")]
    (∀ pair ∈ pairs, '[' ∉ pair.1.toList) ∧
      ∃ members, parse (written pairs) = .object members ∧
        members.map Prod.fst = ["7", "a]?+", "é.b"] ∧
        Json.lookup "7" members = some (.array [.string "x", .string "", .string "x"]) ∧
        Json.lookup "a]?+" members = some (.string "%") := by
  intro pairs
  have hflat : ∀ pair ∈ pairs, '[' ∉ pair.1.toList := by decide +kernel
  obtain ⟨members, hparse, hnames, hone, hseveral, -⟩ := parse_flat hflat
  refine ⟨hflat, members, hparse, ?_, ?_, ?_⟩
  · rw [hnames]
    decide +kernel
  · exact hseveral "7" (by decide) (by decide +kernel)
  · exact hone "a]?+" "%" (by decide) (by decide +kernel)

end TrackerTraffic.QueryString
