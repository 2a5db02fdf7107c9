import Mathlib
import TrackerTraffic.Text.Integer

/-!
# Decimal texts of integers

The decimal text of an integer of 64 bits reads as that integer.
-/

namespace TrackerTraffic.Text

/-! ### Digits -/

theorem toString_toList (n : Nat) : (toString n).toList = Nat.toDigits 10 n := Nat.toList_repr

theorem isDigit_of_mem_toString {n : Nat} {c : Char} (h : c ∈ (toString n).toList) :
    c.isDigit = true := by
  rw [toString_toList] at h
  exact Nat.isDigit_of_mem_toDigits (by decide) (by decide) h

theorem toString_toList_ne_nil (n : Nat) : (toString n).toList ≠ [] := by
  rw [toString_toList]
  exact Nat.toDigits_ne_nil

/-- A text of digits is read by their places. -/
theorem digits?_eq_some {cs : List Char} (hne : cs ≠ []) (hdigits : ∀ c ∈ cs, c.isDigit = true) :
    digits? cs = some (Nat.ofDigitChars 10 cs 0) := by
  have hfold : (fun n (c : Char) => n * 10 + (c.toNat - 48)) =
      fun n c => 10 * n + (c.toNat - '0'.toNat) := by
    funext n c
    have hzero : '0'.toNat = 48 := rfl
    rw [hzero, Nat.mul_comm]
  have hguard : ¬ (cs.isEmpty || !cs.all Char.isDigit) = true := by
    have hall : cs.all Char.isDigit = true := List.all_eq_true.2 hdigits
    simp [hall, hne]
  rw [digits?, if_neg hguard, hfold, Nat.ofDigitChars_eq_foldl]

theorem digits?_toString (n : Nat) : digits? (toString n).toList = some n := by
  have hdigits := fun c => isDigit_of_mem_toString (n := n) (c := c)
  rw [digits?_eq_some (toString_toList_ne_nil n) hdigits, toString_toList,
    Nat.ofDigitChars_ten_toDigits]

theorem forall_isDigit_of_digits? {cs : List Char} {n : Nat} (h : digits? cs = some n) :
    cs ≠ [] ∧ ∀ c ∈ cs, c.isDigit = true := by
  unfold digits? at h
  split at h
  · simp at h
  · rename_i hguard
    simpa using hguard

/-! ### Signs -/

theorem unsigned?_of_digits {cs : List Char} {n : Nat} (h : digits? cs = some n) (hn : n < 2 ^ 64) :
    unsigned? cs = some n := by
  have hdigit := (forall_isDigit_of_digits? h).2
  have hword : n < pow2 64 := hn
  unfold unsigned?
  split
  · exact absurd (hdigit '+' List.mem_cons_self) (by decide)
  · simp only [h, if_pos hword]

/-- Digits alone are a signed integer if they fit in front of the sign bit. -/
theorem signed?_of_digits {cs : List Char} {n : Nat} (h : digits? cs = some n) (hn : n < 2 ^ 63) :
    signed? cs = some (n : Int) := by
  have hdigit := (forall_isDigit_of_digits? h).2
  have hword : n < pow2 63 := hn
  unfold signed?
  split
  · exact absurd (hdigit '-' List.mem_cons_self) (by decide)
  · exact absurd (hdigit '+' List.mem_cons_self) (by decide)
  · rw [h]
    exact if_pos hword

theorem lt_of_unsigned? {cs : List Char} {n : Nat} (h : unsigned? cs = some n) : n < 2 ^ 64 := by
  unfold unsigned? at h
  simp only at h
  split at h
  · rename_i m _
    split at h
    · rename_i hword
      obtain rfl : m = n := Option.some.inj h
      exact hword
    · exact absurd h (by simp)
  · exact absurd h (by simp)

theorem mem_of_signed? {cs : List Char} {i : Int} (h : signed? cs = some i) :
    ∀ c ∈ cs, c = '-' ∨ c = '+' ∨ c.isDigit = true := by
  have hdigits : ∀ {digits : List Char} {n : Nat}, digits? digits = some n →
      ∀ c ∈ digits, c = '-' ∨ c = '+' ∨ c.isDigit = true :=
    fun hread c hc => .inr (.inr ((forall_isDigit_of_digits? hread).2 c hc))
  unfold signed? at h
  split at h
  · split at h
    · rename_i hread
      exact List.forall_mem_cons.2 ⟨.inl rfl, hdigits hread⟩
    · exact absurd h (by simp)
  · split at h
    · rename_i hread
      exact List.forall_mem_cons.2 ⟨.inr (.inl rfl), hdigits hread⟩
    · exact absurd h (by simp)
  · split at h
    · rename_i hread
      exact hdigits hread
    · exact absurd h (by simp)

/-- A text of digits that is a signed integer is a natural number in front of the sign bit. -/
theorem exists_of_signed? {cs : List Char} {i : Int} (h : signed? cs = some i)
    (hdigits : ∀ c ∈ cs, c.isDigit = true) :
    ∃ n : Nat, digits? cs = some n ∧ n < 2 ^ 63 ∧ i = n := by
  unfold signed? at h
  split at h
  · exact absurd (hdigits '-' List.mem_cons_self) (by decide)
  · exact absurd (hdigits '+' List.mem_cons_self) (by decide)
  · split at h
    · rename_i n hread
      split at h
      · rename_i hword
        exact ⟨n, hread, hword, (Option.some.inj h).symm⟩
      · exact absurd h (by simp)
    · exact absurd h (by simp)

theorem signed?_neg_of_digits {cs : List Char} {n : Nat} (h : digits? cs = some n)
    (hn : n ≤ 2 ^ 63) : signed? ('-' :: cs) = some (-(n : Int)) := by
  have hword : n ≤ pow2 63 := hn
  simp only [signed?, h, if_pos hword]

theorem unsigned?_toString {n : Nat} (h : n < 2 ^ 64) : unsigned? (toString n).toList = some n :=
  unsigned?_of_digits (digits?_toString n) h

/-- The text of an integer: that of a natural number, or a minus sign and the text of one. -/
theorem int_toString_toList (i : Int) :
    (toString i).toList = if 0 ≤ i then (toString i.toNat).toList
      else '-' :: (toString (-i).toNat).toList := by
  rw [Int.toString_eq_repr, Int.repr_eq_if]
  split
  · rfl
  · rw [String.toList_append]
    rfl

theorem signed?_toString {i : Int} (hlow : -2 ^ 63 ≤ i) (hhigh : i < 2 ^ 63) :
    signed? (toString i).toList = some i := by
  rw [int_toString_toList]
  split
  · have hread := signed?_of_digits (digits?_toString i.toNat) (by omega)
    rw [hread]
    congr 1
    omega
  · have hread := signed?_neg_of_digits (digits?_toString (-i).toNat) (by omega)
    rw [hread]
    congr 1
    omega

end TrackerTraffic.Text
