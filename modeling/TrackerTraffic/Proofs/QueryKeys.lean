import TrackerTraffic.Proofs.Decimal
import TrackerTraffic.Proofs.FormRoundTrip
import TrackerTraffic.QueryString.Key

/-!
# Spelling keys

A way through a tree is spelled as a name and its further steps in brackets, and
the spelling reads as the way.
-/

namespace TrackerTraffic.QueryString

def Key.text : Key → List Char
  | .name text => text
  | .index position => (toString position).toList
  | .push => []

def Key.bracketed (key : Key) : List Char := '[' :: (key.text ++ [']'])

/-- The spelling of a way: its first step as it is, the others in brackets. -/
def spell : List Key → List Char
  | [] => []
  | first :: rest => first.text ++ rest.flatMap Key.bracketed

/-- The text can stand for a name: there is one, and it holds no brackets. -/
def IsName (text : List Char) : Prop := text ≠ [] ∧ '[' ∉ text ∧ ']' ∉ text

/-- The step is what its text in brackets reads as. -/
def Key.Bracketable : Key → Prop
  | .name text => IsName text ∧ ∀ n, Text.unsigned? text = some n → maxIndex < n
  | .index position => position ≤ maxIndex
  | .push => True

instance (text : List Char) : Decidable (IsName text) :=
  inferInstanceAs (Decidable (text ≠ [] ∧ '[' ∉ text ∧ ']' ∉ text))

instance (key : Key) : Decidable key.Bracketable :=
  match key with
  | .name text =>
    match hread : Text.unsigned? text with
    | none => decidable_of_iff (IsName text) (by simp [Key.Bracketable, hread])
    | some n => decidable_of_iff (IsName text ∧ maxIndex < n) (by simp [Key.Bracketable, hread])
  | .index position => inferInstanceAs (Decidable (position ≤ maxIndex))
  | .push => inferInstanceAs (Decidable True)

theorem Key.close_not_mem_text {key : Key} (h : key.Bracketable) : ']' ∉ key.text := by
  cases key with
  | name text => exact h.1.2.2
  | index position =>
    intro hmem
    exact absurd (Text.isDigit_of_mem_toString hmem) (by decide)
  | push => exact List.not_mem_nil

theorem Key.ofSegment_text {key : Key} (h : key.Bracketable) : Key.ofSegment key.text = key := by
  cases key with
  | name text =>
    obtain ⟨⟨hne, -, -⟩, hlarge⟩ := h
    rw [Key.text, Key.ofSegment, if_neg (by simpa using hne)]
    cases hread : Text.unsigned? text with
    | none => rfl
    | some n =>
      have hn := hlarge n hread
      exact if_neg (by omega)
  | index position =>
    have hle : position ≤ maxIndex := h
    have hread : Text.unsigned? (toString position).toList = some position :=
      Text.unsigned?_toString (by simp only [maxIndex] at hle; omega)
    rw [Key.text, Key.ofSegment, if_neg (by simp), hread]
    exact if_pos hle
  | push => rfl

theorem readBrackets_bracketed {key : Key} (h : key.Bracketable) (depth : Nat) (rest : List Char) :
    readBrackets (depth + 1) (key.bracketed ++ rest) = key :: readBrackets depth rest := by
  have hsplit : key.bracketed ++ rest = '[' :: (key.text ++ ']' :: rest) := by
    simp [Key.bracketed]
  have hclose := Key.close_not_mem_text h
  have hcontains : (key.text ++ ']' :: rest).contains ']' = true := by simp
  rw [hsplit, readBrackets, if_pos hcontains, Form.takeWhile_ne_append hclose,
    Form.dropWhile_ne_append hclose, Key.ofSegment_text h, List.drop_one, List.tail_cons]

theorem readBrackets_flatMap {keys : List Key} (hkeys : ∀ key ∈ keys, key.Bracketable)
    {depth : Nat} (hdepth : keys.length ≤ depth) :
    readBrackets depth (keys.flatMap Key.bracketed) = keys := by
  induction keys generalizing depth with
  | nil => simp [readBrackets]
  | cons key rest ih =>
    rw [List.length_cons] at hdepth
    obtain ⟨depth, rfl⟩ : ∃ d, depth = d + 1 := ⟨depth - 1, by omega⟩
    have hlength : rest.length ≤ depth := Nat.le_of_succ_le_succ hdepth
    have hrest := ih (fun k hk => hkeys k (List.mem_cons_of_mem _ hk)) hlength
    rw [List.flatMap_cons, readBrackets_bracketed (hkeys key List.mem_cons_self), hrest]

theorem readKey_of_not_mem {name : List Char} (h : '[' ∉ name) : readKey name = [.name name] := by
  have hbrackets : name.dropWhile (· != '[') = [] := by
    rw [List.dropWhile_eq_nil_iff]
    intro c hc
    have hne : c ≠ '[' := fun heq => h (heq ▸ hc)
    simpa using hne
  simp [readKey, hbrackets]

theorem readKey_spell {root : List Char} (hroot : IsName root) {keys : List Key}
    (hkeys : ∀ key ∈ keys, key.Bracketable) (hdepth : keys.length ≤ maxDepth) :
    readKey (spell (.name root :: keys)) = .name root :: keys := by
  obtain ⟨hne, hopen, hclose⟩ := hroot
  cases keys with
  | nil =>
    have hspell : spell [.name root] = root := by simp [spell, Key.text]
    rw [hspell, readKey_of_not_mem hopen]
  | cons key rest =>
    have hspell : spell (.name root :: key :: rest) =
        root ++ '[' :: (key.text ++ ']' :: rest.flatMap Key.bracketed) := by
      simp [spell, Key.text, Key.bracketed]
    have hbracketed : '[' :: (key.text ++ ']' :: rest.flatMap Key.bracketed) =
        (key :: rest).flatMap Key.bracketed := by
      simp [Key.bracketed]
    have hcontains : ('[' :: (key.text ++ ']' :: rest.flatMap Key.bracketed)).contains ']' =
        true := by simp
    have hempty : root.isEmpty = false := by simpa using hne
    simp only [hspell, readKey, Form.takeWhile_ne_append hopen, Form.dropWhile_ne_append hopen,
      if_pos hcontains, hempty, Bool.false_eq_true, if_false, List.singleton_append]
    rw [hbracketed, readBrackets_flatMap hkeys hdepth]

theorem spell_name_ne_nil {root : List Char} (hroot : IsName root) (keys : List Key) :
    spell (.name root :: keys) ≠ [] := by
  simp [spell, Key.text, hroot.1]

end TrackerTraffic.QueryString
