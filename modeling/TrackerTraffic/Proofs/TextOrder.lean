import Mathlib
import TrackerTraffic.Path.Condition

/-!
# The order of texts in conditions

Scripts order texts by their sixteen bit units, conditions order them by code points.  A character
beyond U+FFFF starts with a unit below U+E000, so the two orders part just where one text goes on
with such a character and the other one with a character from U+E000 to U+FFFF.
-/

namespace TrackerTraffic

/-! ### Units -/

namespace Utf16

/-- The units of a character: its code point, or a pair of surrogates. -/
def unitsOf (c : Char) : List Nat :=
  if c.toNat < 0x10000 then [c.toNat]
  else [0xD800 + (c.toNat - 0x10000) / 0x400, 0xDC00 + (c.toNat - 0x10000) % 0x400]

/-- The sixteen bit units of a text. -/
def encode (cs : List Char) : List Nat := cs.flatMap unitsOf

theorem exists_unitsOf (c : Char) : ∃ n rest, unitsOf c = n :: rest := by
  unfold unitsOf
  split_ifs
  · exact ⟨_, _, rfl⟩
  · exact ⟨_, _, rfl⟩

theorem encode_cons (c : Char) (cs : List Char) : encode (c :: cs) = unitsOf c ++ encode cs :=
  List.flatMap_cons

theorem encode_append (front back : List Char) :
    encode (front ++ back) = encode front ++ encode back :=
  List.flatMap_append

/-- The length of a text is the number of its units. -/
theorem length_encode (cs : List Char) : (encode cs).length = length cs := by
  induction cs with
  | nil => rfl
  | cons c rest ih =>
    have hwidth : (unitsOf c).length = width c := by
      unfold unitsOf width
      split_ifs <;> rfl
    rw [encode_cons, List.length_append, ih, hwidth]
    rfl

/-- In units the character comes behind the other one, by code points in front of it. -/
def Crosses (c d : Char) : Prop := 0xE000 ≤ c.toNat ∧ c.toNat < 0x10000 ∧ 0x10000 ≤ d.toNat

/-! ### Lists of numbers -/

section Lists

variable {m n : Nat} (a b : List Nat)

theorem compare_cons_of_lt (h : m < n) : compare (m :: a) (n :: b) = .lt := by
  rw [List.compare_eq_compareLex, List.compareLex_cons_cons, Nat.compare_eq_lt.2 h]
  rfl

theorem compare_cons_of_gt (h : n < m) : compare (m :: a) (n :: b) = .gt := by
  rw [List.compare_eq_compareLex, List.compareLex_cons_cons, Nat.compare_eq_gt.2 h]
  rfl

theorem compare_cons_self (n : Nat) : compare (n :: a) (n :: b) = compare a b := by
  rw [List.compare_eq_compareLex, List.compareLex_cons_cons, Nat.compare_eq_eq.2 rfl]
  rfl

theorem compare_append_self (front : List Nat) :
    compare (front ++ a) (front ++ b) = compare a b := by
  induction front with
  | nil => rfl
  | cons n rest ih => rw [List.cons_append, List.cons_append, compare_cons_self, ih]

end Lists

/-- The character with the smaller code point comes first in units, unless the two cross. -/
theorem compare_unitsOf {c d : Char} (h : c.toNat < d.toNat) (a b : List Nat) :
    (Crosses c d → compare (unitsOf c ++ a) (unitsOf d ++ b) = .gt) ∧
      (¬ Crosses c d → compare (unitsOf c ++ a) (unitsOf d ++ b) = .lt) := by
  have hc : c.toNat < 0xD800 ∨ 0xDFFF < c.toNat ∧ c.toNat < 0x110000 := c.valid
  have hd : d.toNat < 0xD800 ∨ 0xDFFF < d.toNat ∧ d.toNat < 0x110000 := d.valid
  unfold Crosses unitsOf
  split_ifs with hcone hdone hdone
  · exact ⟨fun hcross => absurd hcross.2.2 (by omega), fun _ => compare_cons_of_lt _ _ h⟩
  · -- the first unit of the greater one is a surrogate
    exact ⟨fun hcross => compare_cons_of_gt _ _ (by omega),
      fun hcross => compare_cons_of_lt _ _ (by omega)⟩
  · omega
  · refine ⟨fun hcross => absurd hcross.2.1 hcone, fun _ => ?_⟩
    have hle : (c.toNat - 0x10000) / 0x400 ≤ (d.toNat - 0x10000) / 0x400 :=
      Nat.div_le_div_right (by omega)
    rcases Nat.lt_or_eq_of_le hle with hfirst | hfirst
    · exact compare_cons_of_lt _ _ (by omega)
    · rw [hfirst]
      exact (compare_cons_self _ _ _).trans (compare_cons_of_lt _ _ (by omega))

/-- At the first place where the texts part, their characters cross. -/
def Parts (xs ys : List Char) : Prop :=
  ∃ front c d xs' ys', xs = front ++ c :: xs' ∧ ys = front ++ d :: ys' ∧
    (Crosses c d ∨ Crosses d c)

theorem Crosses.lt {c d : Char} (h : Crosses c d) : c.toNat < d.toNat := h.2.1.trans_le h.2.2

theorem Parts.cons {xs ys : List Char} (h : Parts xs ys) (c : Char) :
    Parts (c :: xs) (c :: ys) := by
  obtain ⟨front, d, e, xs', ys', rfl, rfl, hcross⟩ := h
  exact ⟨c :: front, d, e, xs', ys', rfl, rfl, hcross⟩

theorem parts_of_crosses {c d : Char} (h : Crosses c d ∨ Crosses d c) (xs ys : List Char) :
    Parts (c :: xs) (d :: ys) :=
  ⟨[], c, d, xs, ys, rfl, rfl, h⟩

end Utf16

/-! ### Texts -/

namespace Path

open Utf16 (Crosses Parts)

section Texts

variable {c d : Char} (xs ys : List Char)

theorem compareTexts_cons_of_lt (h : c.toNat < d.toNat) :
    compareTexts (c :: xs) (d :: ys) = .lt := by
  rw [compareTexts, if_pos (show c < d from h)]

theorem compareTexts_cons_of_gt (h : d.toNat < c.toNat) :
    compareTexts (c :: xs) (d :: ys) = .gt := by
  have hnot : ¬ c < d := Nat.lt_asymm h
  rw [compareTexts, if_neg hnot, if_pos (show d < c from h)]

theorem compareTexts_cons_self (c : Char) :
    compareTexts (c :: xs) (c :: ys) = compareTexts xs ys := by
  have hnot : ¬ c < c := Nat.lt_irrefl c.toNat
  rw [compareTexts, if_neg hnot, if_neg hnot]

theorem compareTexts_append_self (front : List Char) :
    compareTexts (front ++ xs) (front ++ ys) = compareTexts xs ys := by
  induction front with
  | nil => rfl
  | cons c rest ih => rw [List.cons_append, List.cons_append, compareTexts_cons_self, ih]

end Texts

/-- Texts are ordered by their code points. -/
theorem compareTexts_eq (xs ys : List Char) :
    compareTexts xs ys = compare (xs.map Char.toNat) (ys.map Char.toNat) := by
  fun_induction compareTexts xs ys with
  | case1 => rfl
  | case2 => rfl
  | case3 => rfl
  | case4 c cs d ds hlt => exact (Utf16.compare_cons_of_lt _ _ hlt).symm
  | case5 c cs d ds _ hgt => exact (Utf16.compare_cons_of_gt _ _ hgt).symm
  | case6 c cs d ds hlt hgt ih =>
    have heq : c = d := Char.le_antisymm (Char.not_lt.1 hgt) (Char.not_lt.1 hlt)
    rw [ih, heq, List.map_cons, List.map_cons, Utf16.compare_cons_self]

/-- The two orders agree on texts that do not part at crossing characters. -/
theorem compare_encode_of_not_parts {xs ys : List Char} (h : ¬ Parts xs ys) :
    compare (Utf16.encode xs) (Utf16.encode ys) = compareTexts xs ys := by
  fun_induction compareTexts xs ys with
  | case1 => rfl
  | case2 d ds =>
    obtain ⟨n, rest, hunits⟩ := Utf16.exists_unitsOf d
    rw [Utf16.encode_cons, hunits]
    rfl
  | case3 c cs =>
    obtain ⟨n, rest, hunits⟩ := Utf16.exists_unitsOf c
    rw [Utf16.encode_cons, hunits]
    rfl
  | case4 c cs d ds hlt =>
    have hcross : ¬ Crosses c d := fun hcross => h (Utf16.parts_of_crosses (.inl hcross) cs ds)
    exact (Utf16.compare_unitsOf hlt _ _).2 hcross
  | case5 c cs d ds _ hgt =>
    have hcross : ¬ Crosses d c := fun hcross => h (Utf16.parts_of_crosses (.inr hcross) cs ds)
    rw [Std.OrientedOrd.eq_swap]
    exact congrArg Ordering.swap ((Utf16.compare_unitsOf hgt _ _).2 hcross)
  | case6 c cs d ds hlt hgt ih =>
    obtain rfl : c = d := Char.le_antisymm (Char.not_lt.1 hgt) (Char.not_lt.1 hlt)
    have hrest : ¬ Parts cs ds := fun hparts => h (hparts.cons c)
    rw [Utf16.encode_cons, Utf16.encode_cons, Utf16.compare_append_self, ih hrest]

/-- Where texts part at crossing characters the two orders are opposite. -/
theorem compare_encode_of_parts {xs ys : List Char} (h : Parts xs ys) :
    compareTexts xs ys ≠ .eq ∧
      compare (Utf16.encode xs) (Utf16.encode ys) = (compareTexts xs ys).swap := by
  obtain ⟨front, c, d, xs, ys, rfl, rfl, hcross⟩ := h
  rw [compareTexts_append_self, Utf16.encode_append, Utf16.encode_append,
    Utf16.compare_append_self]
  rcases hcross with hcross | hcross
  · rw [compareTexts_cons_of_lt xs ys hcross.lt]
    exact ⟨by decide, (Utf16.compare_unitsOf hcross.lt _ _).1 hcross⟩
  · rw [compareTexts_cons_of_gt xs ys hcross.lt, Std.OrientedOrd.eq_swap]
    exact ⟨by decide, congrArg Ordering.swap ((Utf16.compare_unitsOf hcross.lt _ _).1 hcross)⟩

/-! ### Comparisons -/

/-- The comparison asks for an order, not for equality. -/
def Comparison.isOrder : Comparison → Bool
  | .lt | .le | .gt | .ge => true
  | _ => false

/-- The comparison accepts values in this order. -/
def Comparison.accepts : Comparison → Ordering → Bool
  | .lt, o => o.isLT
  | .le, o => o.isLE
  | .gt, o => o.isGT
  | .ge, o => o.isGE
  | _, _ => false

theorem Comparison.holds_strings {c : Comparison} (hc : c.isOrder = true) (x y : String) :
    c.holds (.value (.string x)) (.value (.string y)) =
      c.accepts (compareTexts x.toList y.toList) := by
  have hrelation : relation (.value (.string x)) (.value (.string y)) =
      some (compareTexts x.toList y.toList) := rfl
  cases c with
  | lt | le | gt | ge =>
    rw [Comparison.holds, hrelation]
    cases compareTexts x.toList y.toList <;> rfl
  | _ => cases hc

/-- No comparison of order accepts both of two opposite orders, and each of them one. -/
theorem Comparison.accepts_swap {c : Comparison} (hc : c.isOrder = true) {o : Ordering}
    (ho : o ≠ .eq) : c.accepts o.swap = !c.accepts o := by
  cases c with
  | lt | le | gt | ge =>
    cases o with
    | eq => exact absurd rfl ho
    | _ => rfl
  | _ => cases hc

variable {current key : Json} {left right : Operand} {x y : String} {c : Comparison}

/-- A condition orders texts by their code points.  That is their order by sixteen bit units just
if they do not first part at a character beyond U+FFFF in the one and a character from U+E000 to
U+FFFF in the other. -/
theorem holds_by_units_iff (hleft : left.outcome current key = .value (.string x))
    (hright : right.outcome current key = .value (.string y)) (hc : c.isOrder = true) :
    (Filter.compare left c right).holds current key =
        c.accepts (compare (x.toList.map Char.toNat) (y.toList.map Char.toNat)) ∧
      ((Filter.compare left c right).holds current key =
          c.accepts (compare (Utf16.encode x.toList) (Utf16.encode y.toList)) ↔
        ¬ Parts x.toList y.toList) := by
  have hholds : (Filter.compare left c right).holds current key =
      c.accepts (compareTexts x.toList y.toList) := by
    rw [Filter.holds, hleft, hright, Comparison.holds_strings hc]
  rw [hholds]
  refine ⟨by rw [compareTexts_eq], ?_, fun hparts => ?_⟩
  · intro hsame hparts
    obtain ⟨hne, hswap⟩ := compare_encode_of_parts hparts
    rw [hswap, Comparison.accepts_swap hc hne] at hsame
    exact Bool.not_ne_self _ hsame.symm
  · rw [compare_encode_of_not_parts hparts]

/-- Two texts of three characters that part at the third one, as members of a child. -/
theorem holds_by_units_members :
    let child : Json := .object [("x", .string "a😀ﬁ"), ("y", .string "a😀😀")]
    let left : Operand := .mk .current [.member "x"]
    let right : Operand := .mk .current [.member "y"]
    left.outcome child .null = .value (.string "a😀ﬁ") ∧
      right.outcome child .null = .value (.string "a😀😀") ∧ Comparison.le.isOrder = true ∧
      (Filter.compare left .le right).holds child .null = true ∧
      Comparison.le.accepts
        (compare (Utf16.encode "a😀ﬁ".toList) (Utf16.encode "a😀😀".toList)) = false := by
  intro child left right
  have hleft : left.outcome child .null = .value (.string "a😀ﬁ") := by cbv
  have hright : right.outcome child .null = .value (.string "a😀😀") := by cbv
  have hparts : Parts "a😀ﬁ".toList "a😀😀".toList :=
    ⟨['a', '😀'], 'ﬁ', '😀', [], [], by decide, by decide, .inl ⟨by decide, by decide, by decide⟩⟩
  obtain ⟨hpoints, hunits⟩ := holds_by_units_iff hleft hright (c := .le) rfl
  have hholds : (Filter.compare left .le right).holds child .null = true :=
    hpoints.trans (by decide)
  have hdiffer := mt hunits.1 (not_not.2 hparts)
  rw [hholds] at hdiffer
  exact ⟨hleft, hright, rfl, hholds, Bool.eq_false_iff.2 (Ne.symm hdiffer)⟩

/-- By sixteen bit units the ligature comes behind the face, and yet the condition holds. -/
theorem not_holds_by_units :
    ¬ ∀ (current key : Json) (left right : Operand) (x y : String) (c : Comparison),
      left.outcome current key = .value (.string x) →
        right.outcome current key = .value (.string y) → c.isOrder = true →
          (Filter.compare left c right).holds current key =
            c.accepts (compare (Utf16.encode x.toList) (Utf16.encode y.toList)) := by
  intro h
  let face : Operand := .mk (.literal (.string "😀")) []
  have hcurrent := h (.string "ﬁ") .null (.mk .current []) face "ﬁ" "😀" .lt rfl rfl rfl
  revert hcurrent
  decide

end Path

end TrackerTraffic
