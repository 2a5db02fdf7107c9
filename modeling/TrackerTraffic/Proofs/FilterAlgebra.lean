import TrackerTraffic.Proofs.Lookahead
import TrackerTraffic.Proofs.PathRoundTrip
import TrackerTraffic.Proofs.QueryLocations

/-!
# Conditions put together from texts

A text that reads to its end as a condition reads as the same one in front of a closing
parenthesis, whatever its own quotes and parentheses are, so in parentheses such texts are operands
of each other.  The filter of a negated text finds the children that the filter of the text leaves
out, and the filters of two joined texts find what both find or what one of them finds.
-/

namespace TrackerTraffic.Path

open Json (Link)

/-! ### Texts of conditions -/

/-- The text reads to its end as the condition. -/
def ReadsFully (text : String) (condition : Filter) : Prop :=
  Reads (readOr text.toList) condition []

/-- The path that keeps the children for which the text holds. -/
def filterPath (text : String) : String := "[?(" ++ text ++ ")]"

def negatedText (text : String) : String := "!(" ++ text ++ ")"

/-- Two texts in parentheses with a sign between them. -/
def joinedText (sign left right : String) : String :=
  "(" ++ left ++ ") " ++ sign ++ " (" ++ right ++ ")"

variable {left right : String} {a b : Filter} {cs rest : List Char}

/-- In front of a closing parenthesis the text reads as the same condition. -/
theorem ReadsFully.alone (h : ReadsFully left a) (rest : List Char) :
    ReadsTo (readOr (left.toList ++ ')' :: rest)) a (')' :: rest) :=
  (reads_or_behind (endsWord_close rest) h (.inr ⟨rest, rfl⟩)).to

/-- In parentheses the text is an operand. -/
theorem ReadsFully.operand (h : ReadsFully left a)
    (hcs : skipBlank cs = '(' :: (left.toList ++ ')' :: rest)) :
    ReadsTo (readUnary cs) a rest :=
  readsTo_parentheses hcs (h.alone rest)

theorem ReadsFully.not (h : ReadsFully left a) (rest : List Char) :
    ReadsTo (readOr ((negatedText left).toList ++ ')' :: rest)) (.not a) (')' :: rest) := by
  have htext : (negatedText left).toList ++ ')' :: rest =
      '!' :: '(' :: (left.toList ++ ')' :: ')' :: rest) := by
    simp [negatedText]
  have hoperand := h.operand (skipBlank_cons (by decide) (left.toList ++ ')' :: ')' :: rest))
  rw [htext]
  exact readsTo_or_of_unary (IsConditionEnd.close rest).2
    (readsTo_not (skipBlank_cons (by decide) _) (by simp) hoperand)

theorem joinedText_toList (sign left right : String) (rest : List Char) :
    (joinedText sign left right).toList ++ rest =
      '(' :: (left.toList ++ ')' :: ' ' :: (sign.toList ++ ' ' :: '(' ::
        (right.toList ++ ')' :: rest))) := by
  simp [joinedText]

theorem ReadsFully.and (ha : ReadsFully left a) (hb : ReadsFully right b) (rest : List Char) :
    ReadsTo (readOr ((joinedText "&&" left right).toList ++ ')' :: rest)) (.and a b)
      (')' :: rest) := by
  rw [joinedText_toList]
  exact readsTo_conjunction (IsConditionEnd.close rest).2
    (ha.operand (skipBlank_cons (by decide) _)) rfl (hb.operand rfl)

theorem ReadsFully.or (ha : ReadsFully left a) (hb : ReadsFully right b) (rest : List Char) :
    ReadsTo (readOr ((joinedText "||" left right).toList ++ ')' :: rest)) (.or a b)
      (')' :: rest) := by
  rw [joinedText_toList]
  exact readsTo_disjunction (IsConditionEnd.close rest).2
    (ha.operand (skipBlank_cons (by decide) _)) rfl (hb.operand rfl)

/-- The text of a condition in parentheses reads to its end, also with blanks behind it. -/
theorem readsFully_written (layout : Layout) {condition : Filter} (h : condition.Printable)
    (blanks : List Char) (hblanks : skipBlank blanks = []) {text : String}
    (htext : text.toList = '(' :: (layout.filter condition ++ ')' :: blanks)) :
    ReadsFully text condition := by
  have hskip := (layout.filter_start h).skipBlank (')' :: blanks)
  obtain ⟨hend, hnext⟩ := IsConditionEnd.close blanks
  have hinner := (reads_filter condition h).1 _ _ hskip hend hnext
  obtain ⟨after, hafter, hunary⟩ := readsTo_parentheses (skipBlank_cons (by decide) _) hinner
  rw [hblanks] at hafter
  have htail : Reads (readAndTail condition after) condition [] :=
    reads_andTail_iff.2 (.inr ⟨by simp [hafter], hafter.symm, rfl⟩)
  have hor : Reads (readOrTail condition []) condition [] :=
    reads_orTail_iff.2 (.inr ⟨by simp [skipBlank], rfl, rfl⟩)
  rw [ReadsFully, htext]
  exact reads_or_iff.2 ⟨condition, [], reads_and_iff.2 ⟨condition, after, hunary, htail⟩, hor⟩

theorem parse_filterPath {text : String} {condition : Filter}
    (h : ReadsTo (readOr (text.toList ++ ')' :: [']'])) condition (')' :: [']'])) :
    parse (filterPath text) = .ok ⟨filterPath text, [.filter condition]⟩ := by
  have htext : (filterPath text).toList = '[' :: '?' :: '(' :: (text.toList ++ ')' :: [']']) := by
    simp [filterPath]
  have hsegment : Reads (readSegment (filterPath text).toList) (.filter condition) [] := by
    rw [htext, readSegment.eq_def]
    exact (reads_bracket_filter h).bind fun _ => ⟨_, rfl⟩
  have hend : readSegments [] = .ok [] := by rw [readSegments]
  have hread := readSegments_of_reads hsegment hend
  refine parse_of_readPath ?_
  rw [htext] at hread ⊢
  exact hread

/-! ### Children that filters find -/

theorem locations_filter (source : String) (condition : Filter) (v : Json) :
    (⟨source, [.filter condition]⟩ : Path).locations v =
      (v.children.filter fun child => condition.holds child.2 (keyOfLink child.1)).map
        fun child => [child.1] := by
  rw [locations, visitAll_singleton, Segment.visit, List.map_map]
  rfl

/-- With distinct names, a child is found if the condition holds for it. -/
theorem mem_locations_filter {v : Json} (h : v.WellFormed) (source : String) (condition : Filter)
    {child : Link × Json} (hchild : child ∈ v.children) :
    [child.1] ∈ (⟨source, [.filter condition]⟩ : Path).locations v ↔
      condition.holds child.2 (keyOfLink child.1) = true := by
  rw [locations_filter, List.mem_map]
  constructor
  · rintro ⟨other, hother, hlink⟩
    obtain ⟨hmem, hholds⟩ := List.mem_filter.1 hother
    obtain rfl : other = child :=
      List.inj_on_of_nodup_map h.nodup_links hmem hchild (List.singleton_injective hlink)
    exact hholds
  · exact fun hholds => ⟨child, List.mem_filter.2 ⟨hchild, hholds⟩, rfl⟩

/-- The path finds children of the value, each once and in their order, so none in a scalar. -/
structure FindsChildren (path : Path) (v : Json) : Prop where
  inOrder : (path.locations v).Sublist (v.children.map fun child => [child.1])
  values : (path.locations v).map v.at? = (path.query v).map some
  scalar : isContainer v = false → path.query v = []

theorem findsChildren_filter {v : Json} (h : v.WellFormed) (source : String)
    (condition : Filter) : (⟨source, [.filter condition]⟩ : Path).FindsChildren v := by
  have hvalues := map_at?_locations ⟨source, [.filter condition]⟩ h
  refine ⟨?_, hvalues, fun hscalar => ?_⟩
  · rw [locations_filter]
    exact List.filter_sublist.map _
  · have hnone : v.children = [] := by
      cases v with
      | array items => cases hscalar
      | object members => cases hscalar
      | _ => rfl
    rw [locations_filter, hnone] at hvalues
    exact List.map_eq_nil_iff.1 hvalues.symm

/-- Texts that read to their end as conditions read as filters when they stand alone, negated, or
joined.  Each of these finds children of a value in their order: the negated text those that the
text leaves out, a conjunction those that both texts find, a disjunction those that one of them
finds. -/
theorem filters_form_algebra (hleft : ∃ a, ReadsFully left a) (hright : ∃ b, ReadsFully right b) :
    ∃ inLeft inRight negated both either : Path,
      parse (filterPath left) = .ok inLeft ∧ parse (filterPath right) = .ok inRight ∧
      parse (filterPath (negatedText left)) = .ok negated ∧
      parse (filterPath (joinedText "&&" left right)) = .ok both ∧
      parse (filterPath (joinedText "||" left right)) = .ok either ∧
      ∀ v : Json, v.WellFormed →
        (∀ path ∈ [inLeft, inRight, negated, both, either], path.FindsChildren v) ∧
        ∀ child ∈ v.children,
          ([child.1] ∈ negated.locations v ↔ [child.1] ∉ inLeft.locations v) ∧
          ([child.1] ∈ both.locations v ↔
            [child.1] ∈ inLeft.locations v ∧ [child.1] ∈ inRight.locations v) ∧
          ([child.1] ∈ either.locations v ↔
            [child.1] ∈ inLeft.locations v ∨ [child.1] ∈ inRight.locations v) := by
  obtain ⟨a, ha⟩ := hleft
  obtain ⟨b, hb⟩ := hright
  refine ⟨_, _, _, _, _, parse_filterPath (ha.alone _), parse_filterPath (hb.alone _),
    parse_filterPath (ha.not _), parse_filterPath (ha.and hb _), parse_filterPath (ha.or hb _),
    fun v h => ⟨?_, fun child hchild => ?_⟩⟩
  · simp only [List.forall_mem_cons, findsChildren_filter h, List.not_mem_nil, false_implies,
      implies_true, and_self]
  · simp only [mem_locations_filter h _ _ hchild, Filter.holds, Bool.not_eq_true', Bool.not_eq_true,
      Bool.and_eq_true, Bool.or_eq_true, and_self]

/-- Quoted parentheses and a blank at the end, and a disjunction of a negation and an inequality. -/
theorem filters_form_algebra_quoted :
    let left := "(@['('] == ')') "
    let right := "(!@['n'] || @property != 'a')"
    let root : Json := .object [("a", .object [("(", .string ")")]), ("b", .array [])]
    (∃ a, ReadsFully left a) ∧ (∃ b, ReadsFully right b) ∧ root.WellFormed ∧
      ∃ inLeft negated both : Path,
        parse "[?((@['('] == ')') )]" = .ok inLeft ∧
        parse "[?(!((@['('] == ')') ))]" = .ok negated ∧
        parse "[?(((@['('] == ')') ) && ((!@['n'] || @property != 'a')))]" = .ok both ∧
        both.FindsChildren root ∧
        ∀ child ∈ root.children,
          [child.1] ∈ negated.locations root ↔ [child.1] ∉ inLeft.locations root := by
  intro left right root
  let named (name : String) : Operand := .mk .current [.member name]
  let text (s : String) : Operand := .mk (.literal (.string s)) []
  let a : Filter := .compare (named "(") .looseEq (text ")")
  let b : Filter := .or (.not (.truthy (named "n"))) (.compare (.mk .key []) .looseNe (text "a"))
  have hleft : ReadsFully left a := readsFully_written Layout.plain (by
    simp [a, named, text, Filter.Printable, Operand.Printable, AccessorsPrintable,
      Accessor.Printable, Base.Printable, Base.isNumber, startsWithCall]) [' '] rfl (by decide)
  have hright : ReadsFully right b := readsFully_written Layout.plain (by
    simp [b, named, text, Filter.Printable, Operand.Printable, AccessorsPrintable,
      Accessor.Printable, Base.Printable, Base.isNumber, startsWithCall]) [] rfl (by decide)
  have hroot : root.WellFormed := by
    simp [root, Json.WellFormed, Json.WellFormedItems, Json.WellFormedMembers]
  obtain ⟨inLeft, inRight, negated, both, either, hparse, -, hnegated, hboth, -, hfind⟩ :=
    filters_form_algebra ⟨a, hleft⟩ ⟨b, hright⟩
  obtain ⟨hchildren, halgebra⟩ := hfind root hroot
  exact ⟨⟨a, hleft⟩, ⟨b, hright⟩, hroot, inLeft, negated, both, hparse, hnegated, hboth,
    hchildren both (by simp), fun child hchild => (halgebra child hchild).1⟩

end TrackerTraffic.Path
