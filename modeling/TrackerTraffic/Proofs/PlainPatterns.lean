import Mathlib.Data.List.Basic
import TrackerTraffic.Pattern.Basic

/-!
# Plain patterns

Patterns without conditions on places and without repetitions.  Which texts such a
pattern fits does not depend on what stands around them, and the search finds a
pattern just in the texts that have a fitting part.
-/

namespace TrackerTraffic.Pattern

inductive IsPlain : Pattern → Prop
  | empty : IsPlain .empty
  | one (set : CharSet) : IsPlain (.one set)
  | seq {a b : Pattern} (ha : IsPlain a) (hb : IsPlain b) : IsPlain (.seq a b)
  | alt {a b : Pattern} (ha : IsPlain a) (hb : IsPlain b) : IsPlain (.alt a b)

/-- The whole text fits the pattern. -/
inductive Fits : Pattern → List Char → Prop
  | empty : Fits .empty []
  | one {set : CharSet} {c : Char} (h : set.contains c = true) : Fits (.one set) [c]
  | seq {a b : Pattern} {u v : List Char} (hu : Fits a u) (hv : Fits b v) : Fits (.seq a b) (u ++ v)
  | left {a b : Pattern} {w : List Char} (h : Fits a w) : Fits (.alt a b) w
  | right {a b : Pattern} {w : List Char} (h : Fits b w) : Fits (.alt a b) w

/-! ### Texts of the forms of patterns -/

theorem fits_empty_iff {w : List Char} : Fits .empty w ↔ w = [] := by
  constructor
  · intro h
    cases h
    rfl
  · intro h
    rw [h]
    exact .empty

theorem fits_one_iff {set : CharSet} {w : List Char} :
    Fits (.one set) w ↔ ∃ c, w = [c] ∧ set.contains c = true := by
  constructor
  · intro h
    cases h with
    | one h => exact ⟨_, rfl, h⟩
  · intro h
    obtain ⟨c, hw, hc⟩ := h
    rw [hw]
    exact .one hc

theorem fits_seq_iff {a b : Pattern} {w : List Char} :
    Fits (.seq a b) w ↔ ∃ u v, w = u ++ v ∧ Fits a u ∧ Fits b v := by
  constructor
  · intro h
    cases h with
    | seq hu hv => exact ⟨_, _, rfl, hu, hv⟩
  · intro h
    obtain ⟨u, v, hw, hu, hv⟩ := h
    rw [hw]
    exact .seq hu hv

theorem fits_alt_iff {a b : Pattern} {w : List Char} :
    Fits (.alt a b) w ↔ Fits a w ∨ Fits b w := by
  constructor
  · intro h
    cases h with
    | left h => exact Or.inl h
    | right h => exact Or.inr h
  · intro h
    cases h with
    | inl h => exact .left h
    | inr h => exact .right h

theorem fits_followedBy_iff {a b : Pattern} {w : List Char} :
    Fits (a.followedBy b) w ↔ Fits (.seq a b) w := by
  cases a with
  | empty =>
    rw [followedBy, fits_seq_iff]
    simp [fits_empty_iff]
  | one set => rfl
  | look condition => rfl
  | seq a b => rfl
  | alt a b => rfl
  | repeated a least most => rfl

theorem IsPlain.followedBy {a b : Pattern} (ha : IsPlain a) (hb : IsPlain b) :
    IsPlain (a.followedBy b) := by
  cases ha with
  | empty => exact hb
  | one set => exact .seq (.one set) hb
  | seq h h' => exact .seq (.seq h h') hb
  | alt h h' => exact .seq (.alt h h') hb

/-! ### One step of the search -/

theorem fitsEmpty_iff {p : Pattern} (hp : IsPlain p) (before after : Option Char) :
    p.fitsEmpty before after = true ↔ Fits p [] := by
  induction hp with
  | empty => simp [fitsEmpty, fits_empty_iff]
  | one set => simp [fitsEmpty, fits_one_iff]
  | seq ha hb iha ihb =>
    rw [fitsEmpty, Bool.and_eq_true, iha, ihb, fits_seq_iff]
    constructor
    · intro h
      exact ⟨[], [], rfl, h⟩
    · intro h
      obtain ⟨u, v, hw, hu, hv⟩ := h
      obtain ⟨rfl, rfl⟩ := List.append_eq_nil_iff.1 hw.symm
      exact ⟨hu, hv⟩
  | alt ha hb iha ihb => rw [fitsEmpty, Bool.or_eq_true, iha, ihb, fits_alt_iff]

theorem IsPlain.derivative {p : Pattern} (hp : IsPlain p) {before : Option Char} {c : Char}
    {q : Pattern} (hq : q ∈ p.derivatives before c) : IsPlain q := by
  induction hp generalizing q with
  | empty => simp [derivatives] at hq
  | one set =>
    rw [derivatives] at hq
    split at hq
    · rw [List.mem_singleton.1 hq]
      exact .empty
    · simp at hq
  | seq ha hb iha ihb =>
    rw [derivatives, List.mem_append] at hq
    cases hq with
    | inl hq =>
      obtain ⟨a', ha', rfl⟩ := List.mem_map.1 hq
      exact (iha ha').followedBy hb
    | inr hq =>
      split at hq
      · exact ihb hq
      · simp at hq
  | alt ha hb iha ihb =>
    rw [derivatives, List.mem_append] at hq
    cases hq with
    | inl hq => exact iha hq
    | inr hq => exact ihb hq

/-- A text fits in a sequence if its front is empty or starts with the text's first character. -/
theorem fits_seq_cons_iff {a b : Pattern} {c : Char} {w : List Char} :
    Fits (.seq a b) (c :: w) ↔
      (∃ u v, w = u ++ v ∧ Fits a (c :: u) ∧ Fits b v) ∨ (Fits a [] ∧ Fits b (c :: w)) := by
  rw [fits_seq_iff]
  constructor
  · intro h
    obtain ⟨u, v, hw, hu, hv⟩ := h
    cases u with
    | nil =>
      rw [List.nil_append] at hw
      rw [hw]
      exact Or.inr ⟨hu, hv⟩
    | cons d u =>
      rw [List.cons_append, List.cons.injEq] at hw
      obtain ⟨rfl, hw⟩ := hw
      exact Or.inl ⟨u, v, hw, hu, hv⟩
  · intro h
    cases h with
    | inl h =>
      obtain ⟨u, v, rfl, hu, hv⟩ := h
      exact ⟨c :: u, v, rfl, hu, hv⟩
    | inr h => exact ⟨[], c :: w, rfl, h⟩

/-- A text fits if the text behind its first character fits one of the derivatives. -/
theorem fits_cons_iff {p : Pattern} (hp : IsPlain p) (before : Option Char) (c : Char)
    (w : List Char) : Fits p (c :: w) ↔ ∃ q ∈ p.derivatives before c, Fits q w := by
  induction hp generalizing w with
  | empty => simp [derivatives, fits_empty_iff]
  | one set =>
    rw [fits_one_iff, derivatives]
    by_cases h : set.contains c = true
    · simp [h, fits_empty_iff]
    · simp [h]
  | @seq a b ha hb iha ihb =>
    -- Derivatives of the front are followed by the back; those of the back count if the front
    -- can be empty here.
    have hfront : (∃ u v, w = u ++ v ∧ Fits a (c :: u) ∧ Fits b v) ↔
        ∃ q ∈ (a.derivatives before c).map (followedBy · b), Fits q w := by
      simp only [List.mem_map, exists_exists_and_eq_and, fits_followedBy_iff, fits_seq_iff, iha]
      constructor
      · intro h
        obtain ⟨u, v, hw, ⟨q, hq, hu⟩, hv⟩ := h
        exact ⟨q, hq, u, v, hw, hu, hv⟩
      · intro h
        obtain ⟨q, hq, u, v, hw, hu, hv⟩ := h
        exact ⟨u, v, hw, ⟨q, hq, hu⟩, hv⟩
    rw [fits_seq_cons_iff, hfront, ihb, ← fitsEmpty_iff ha before (some c), derivatives]
    by_cases h : a.fitsEmpty before (some c) = true
    · simp only [h, if_true, true_and, List.mem_append, or_and_right, exists_or]
    · simp [h]
  | alt ha hb iha ihb =>
    rw [fits_alt_iff, iha, ihb, derivatives]
    simp [or_and_right, exists_or]

theorem mem_distinct {p : Pattern} {ps : List Pattern} : p ∈ distinct ps ↔ p ∈ ps := by
  induction ps with
  | nil => rfl
  | cons a rest ih =>
    rw [distinct, List.mem_cons, ← ih]
    by_cases h : a ∈ distinct rest
    · rw [if_pos (List.contains_iff_mem.2 h)]
      constructor
      · exact Or.inr
      · intro hp
        cases hp with
        | inl hp => exact hp ▸ h
        | inr hp => exact hp
    · rw [if_neg (mt List.contains_iff_mem.1 h), List.mem_cons]

/-! ### The whole search -/

/-- A start of the text fits the pattern. -/
def StartsIn (p : Pattern) (text : List Char) : Prop := ∃ w, w <+: text ∧ Fits p w

theorem startsIn_nil_iff {p : Pattern} : p.StartsIn [] ↔ Fits p [] := by
  simp [StartsIn]

theorem startsIn_cons_iff {p : Pattern} (hp : IsPlain p) (before : Option Char) (c : Char)
    (text : List Char) : p.StartsIn (c :: text) ↔
      Fits p [] ∨ ∃ q ∈ p.derivatives before c, q.StartsIn text := by
  constructor
  · intro h
    obtain ⟨w, hw, hfits⟩ := h
    obtain rfl | ⟨v, rfl, hv⟩ := List.prefix_cons_iff.1 hw
    · exact Or.inl hfits
    · obtain ⟨q, hq, hfits⟩ := (fits_cons_iff hp before c v).1 hfits
      exact Or.inr ⟨q, hq, v, hv, hfits⟩
  · intro h
    obtain h | ⟨q, hq, v, hv, hfits⟩ := h
    · exact ⟨[], List.nil_prefix, h⟩
    · exact ⟨c :: v, List.prefix_cons_iff.2 (Or.inr ⟨v, rfl, hv⟩),
        (fits_cons_iff hp before c v).2 ⟨q, hq, hfits⟩⟩

/-- The search keeps what it needs: the empty fits before it reads on, the derivatives behind. -/
theorem exists_startsIn_cons_iff {ps : List Pattern} (hps : ∀ p ∈ ps, IsPlain p)
    (before : Option Char) (c : Char) (text : List Char) :
    (∃ p ∈ ps, p.StartsIn (c :: text)) ↔
      (∃ p ∈ ps, Fits p []) ∨
        ∃ q ∈ distinct (ps.flatMap (·.derivatives before c)), q.StartsIn text := by
  simp only [mem_distinct, List.mem_flatMap]
  constructor
  · intro h
    obtain ⟨p, hp, h⟩ := h
    obtain h | ⟨q, hq, h⟩ := (startsIn_cons_iff (hps p hp) before c text).1 h
    · exact Or.inl ⟨p, hp, h⟩
    · exact Or.inr ⟨q, ⟨p, hp, hq⟩, h⟩
  · intro h
    obtain ⟨p, hp, h⟩ | ⟨q, ⟨p, hp, hq⟩, h⟩ := h
    · exact ⟨p, hp, (startsIn_cons_iff (hps p hp) before c text).2 (Or.inl h)⟩
    · exact ⟨p, hp, (startsIn_cons_iff (hps p hp) before c text).2 (Or.inr ⟨q, hq, h⟩)⟩

theorem any_fitsEmpty_iff {ps : List Pattern} (hps : ∀ p ∈ ps, IsPlain p)
    (before after : Option Char) :
    ps.any (·.fitsEmpty before after) = true ↔ ∃ p ∈ ps, Fits p [] := by
  rw [List.any_eq_true]
  exact exists_congr fun p => and_congr_right fun hp => fitsEmpty_iff (hps p hp) before after

/-- The search finds a pending pattern at the text's start, or `whole` at any place of it. -/
theorem searchFrom_iff {whole : Pattern} (hwhole : IsPlain whole) (before : Option Char)
    (pending : List Pattern) (hpending : ∀ p ∈ pending, IsPlain p) (text : List Char) :
    searchFrom whole before pending text = true ↔
      (∃ p ∈ pending, p.StartsIn text) ∨ ∃ w, w <:+: text ∧ Fits whole w := by
  induction text generalizing before pending with
  | nil =>
    rw [searchFrom, any_fitsEmpty_iff (List.forall_mem_cons.2 ⟨hwhole, hpending⟩)]
    simp [startsIn_nil_iff, or_comm]
  | cons c rest ih =>
    have hall : ∀ p ∈ whole :: pending, IsPlain p := List.forall_mem_cons.2 ⟨hwhole, hpending⟩
    have hnext : ∀ q ∈ distinct ((whole :: pending).flatMap (·.derivatives before c)),
        IsPlain q := by
      intro q hq
      obtain ⟨p, hp, hq⟩ := List.mem_flatMap.1 (mem_distinct.1 hq)
      exact (hall p hp).derivative hq
    have hparts : (∃ w, w <:+: c :: rest ∧ Fits whole w) ↔
        whole.StartsIn (c :: rest) ∨ ∃ w, w <:+: rest ∧ Fits whole w := by
      simp only [List.infix_cons_iff, or_and_right, exists_or, StartsIn]
    rw [searchFrom, Bool.or_eq_true, any_fitsEmpty_iff hall, ih _ _ hnext, ← or_assoc,
      ← exists_startsIn_cons_iff hall before c rest, hparts, List.exists_mem_cons_iff, or_assoc,
      or_left_comm]

/-- A pattern occurs in the texts that have a part that fits it. -/
theorem occursIn_iff {p : Pattern} (hp : IsPlain p) (text : String) :
    p.occursIn text = true ↔ ∃ w, w <:+: text.toList ∧ Fits p w := by
  rw [occursIn, searchFrom_iff hp none [] (by simp)]
  simp

end TrackerTraffic.Pattern
