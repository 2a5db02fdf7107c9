import TrackerTraffic.Text.BinaryProperty
import TrackerTraffic.Text.Blank
import TrackerTraffic.Text.CaseFold
import TrackerTraffic.Text.Category
import TrackerTraffic.Text.Script
import TrackerTraffic.Text.Word

/-!
# Sets of characters in patterns

The sets a pattern can name, and the operations on them.  `CharSet.contains`
says what each one means.
-/

namespace TrackerTraffic

/-- A set of characters. -/
inductive CharSet where
  | none
  | range (first last : Nat)
  | blank
  | word
  | category (category : Text.Category)
  | script (index : Nat)
  | property (property : Text.BinaryProperty)
  | union (a b : CharSet)
  | inter (a b : CharSet)
  | diff (a b : CharSet)
  | symmDiff (a b : CharSet)
  | compl (a : CharSet)
  | folded (a : CharSet)
  | foldedAscii (a : CharSet)
deriving DecidableEq

namespace CharSet

def single (c : Char) : CharSet := range c.toNat c.toNat

def all : CharSet := range 0 0x10FFFF

def unionAll : List CharSet → CharSet
  | [] => none
  | [a] => a
  | a :: rest => union a (unionAll rest)

/-- The character and, if it is an ASCII letter, its other case. -/
def asciiVariants (c : Char) : List Char :=
  if c.isUpper then [c, c.toLower] else if c.isLower then [c, c.toUpper] else [c]

def contains : CharSet → Char → Bool
  | none, _ => false
  | range first last, c => first ≤ c.toNat && c.toNat ≤ last
  | blank, c => Text.isBlank c
  | word, c => Text.isWordChar c
  | category k, c => k.contains c
  | script index, c =>
    match Text.scripts[index]? with
    | some s => s.table.contains c.toNat
    | Option.none => false
  | property p, c => p.table.contains c.toNat
  | union a b, c => a.contains c || b.contains c
  | inter a b, c => a.contains c && b.contains c
  | diff a b, c => a.contains c && !b.contains c
  | symmDiff a b, c => a.contains c != b.contains c
  | compl a, c => !a.contains c
  | folded a, c => (Text.caseVariants c).any a.contains
  | foldedAscii a, c => (asciiVariants c).any a.contains

-- By `rfl`, since the equations of `contains` would open the table of scripts.
theorem contains_range (first last : Nat) (c : Char) :
    (range first last).contains c = (decide (first ≤ c.toNat) && decide (c.toNat ≤ last)) := rfl

theorem contains_folded (a : CharSet) (c : Char) :
    (folded a).contains c = (Text.caseVariants c).any a.contains := rfl

theorem contains_single {c d : Char} : (single c).contains d = true ↔ d = c := by
  rw [single, contains_range, Bool.and_eq_true, decide_eq_true_iff, decide_eq_true_iff]
  constructor
  · intro h
    exact Char.toNat_inj.1 (Nat.le_antisymm h.2 h.1)
  · intro h
    rw [h]
    exact ⟨Nat.le_refl _, Nat.le_refl _⟩

theorem contains_folded_single {c d : Char} :
    (folded (single c)).contains d = true ↔ Text.sameUpToCase c d = true := by
  rw [contains_folded, List.any_eq_true, Text.sameUpToCase_comm, ← Text.mem_caseVariants]
  simp [contains_single]

def digit : CharSet := category .nd

/-- A rough count of the bytes an automaton spends on the set. -/
def weight : CharSet → Nat
  | none => 32
  | range _ last => if last < 128 then 32 else 500
  | blank => 700
  | word => 50000
  | category _ => 5000
  | script _ => 2000
  | property _ => 40000
  | union a b => a.weight + b.weight
  | inter a b => a.weight + b.weight
  | diff a b => a.weight + b.weight
  | symmDiff a b => a.weight + b.weight
  | compl a => a.weight + 500
  | folded a => a.weight + 32
  | foldedAscii a => a.weight + 32

end CharSet

end TrackerTraffic
