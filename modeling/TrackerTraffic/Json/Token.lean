import TrackerTraffic.Json.Numeral
import TrackerTraffic.Text.Hex

/-!
# Tokens of JSON text

`Token.scan` cuts a text into tokens; the first character that starts no token
ends the list with `broken`.  A string whose escapes do not join to a text, and
a numeral beyond the finite range, are tokens all the same, without a value:
whether that matters is for the reader of the tokens to say.
-/

namespace TrackerTraffic.Json

/-- A token; a string or number token has a value unless it stands for none. -/
inductive Token where
  | openBrace
  | closeBrace
  | openBracket
  | closeBracket
  | colon
  | comma
  | null
  | bool (value : Bool)
  | number (value : Option Number)
  | string (value : Option String)
  | broken

namespace Token

/-! ### Strings -/

def hex4? (a b c d : Char) : Option Nat := do
  return ((← Text.hexValue? a) * 4096 + (← Text.hexValue? b) * 256 + (← Text.hexValue? c) * 16 +
    (← Text.hexValue? d))

def escape? : Char → Option Char
  | '"' => some '"'
  | '\\' => some '\\'
  | '/' => some '/'
  | 'b' => some '\x08'
  | 'f' => some '\x0c'
  | 'n' => some '\n'
  | 'r' => some '\r'
  | 't' => some '\t'
  | _ => none

/--
The rest of a string after its opening quote, as code points and escaped
surrogates, and what follows the closing quote.
-/
def scanString? : List Char → Option (List Nat × List Char)
  | [] => none
  | '"' :: rest => some ([], rest)
  | '\\' :: 'u' :: a :: b :: c :: d :: rest =>
    match hex4? a b c d, scanString? rest with
    | some n, some (units, after) => some (n :: units, after)
    | _, _ => none
  | '\\' :: e :: rest =>
    match escape? e, scanString? rest with
    | some c, some (units, after) => some (c.toNat :: units, after)
    | _, _ => none
  | c :: rest =>
    if c.toNat < 32 ∨ c = '\\' then none
    else
      match scanString? rest with
      | some (units, after) => some (c.toNat :: units, after)
      | none => none

/-- Joins escaped surrogate pairs; a surrogate outside a pair has no text. -/
def joinUnits? : List Nat → Option (List Char)
  | [] => some []
  | [n] => if 0xD800 ≤ n ∧ n < 0xE000 then none else some [Char.ofNat n]
  | m :: n :: rest =>
    if 0xD800 ≤ m ∧ m < 0xDC00 then
      if 0xDC00 ≤ n ∧ n < 0xE000 then
        (joinUnits? rest).map (Char.ofNat (0x10000 + (m - 0xD800) * 1024 + (n - 0xDC00)) :: ·)
      else none
    else if 0xDC00 ≤ m ∧ m < 0xE000 then none
    else (joinUnits? (n :: rest)).map (Char.ofNat m :: ·)

theorem scanString?_length {cs : List Char} {units : List Nat} {after : List Char}
    (h : scanString? cs = some (units, after)) : after.length < cs.length := by
  fun_induction scanString? cs generalizing units after <;>
    simp only [List.length_cons, Option.some.injEq, Prod.mk.injEq, reduceCtorEq] at * <;> grind

/-! ### Numerals -/

theorem scanDigits_length (cs : List Char) :
    (Numeral.scanDigits cs).2.length + (Numeral.scanDigits cs).1.length = cs.length := by
  fun_induction Numeral.scanDigits cs <;> grind

theorem scanWhole?_length {cs r : List Char} {d : List Nat}
    (h : Numeral.scanWhole? cs = some (d, r)) : r.length < cs.length := by
  have := scanDigits_length cs
  unfold Numeral.scanWhole? at h
  split at h
  · simp at h
  · simp at h
  · have : d ≠ [] := by grind
    have := List.length_pos_iff.2 this
    grind

theorem scanFraction?_length {cs r : List Char} {f : Option (List Nat)}
    (h : Numeral.scanFraction? cs = some (f, r)) : r.length ≤ cs.length := by
  unfold Numeral.scanFraction? at h
  split at h
  · rename_i tail
    have := scanDigits_length tail
    split at h <;> grind
  · grind

theorem scanPower?_length {negative : Bool} {cs rest : List Char} {e : Option (Bool × List Nat)}
    (h : Numeral.scanPower? negative cs = some (e, rest)) : rest.length ≤ cs.length := by
  have := scanDigits_length cs
  unfold Numeral.scanPower? at h
  split at h <;> grind

theorem scanExponent?_length {cs r : List Char} {e : Option (Bool × List Nat)}
    (h : Numeral.scanExponent? cs = some (e, r)) : r.length ≤ cs.length := by
  unfold Numeral.scanExponent? at h
  split at h
  · split at h
    · split at h <;> have := scanPower?_length h <;> grind
    · grind
  · grind

theorem scanUnsigned?_length {negative : Bool} {cs rest : List Char} {n : Numeral}
    (h : Numeral.scanUnsigned? negative cs = some (n, rest)) : rest.length < cs.length := by
  unfold Numeral.scanUnsigned? at h
  cases h1 : Numeral.scanWhole? cs with
  | none => simp [h1] at h
  | some w =>
    cases h2 : Numeral.scanFraction? w.2 with
    | none => simp [h1, h2] at h
    | some f =>
      cases h3 : Numeral.scanExponent? f.2 with
      | none => simp [h1, h2, h3] at h
      | some e =>
        have l1 := scanWhole?_length (d := w.1) (r := w.2) h1
        have l2 := scanFraction?_length (f := f.1) (r := f.2) h2
        have l3 := scanExponent?_length (e := e.1) (r := e.2) h3
        simp [h1, h2, h3] at h
        grind

theorem scanNumeral?_length {cs rest : List Char} {n : Numeral}
    (h : Numeral.scan? cs = some (n, rest)) : rest.length < cs.length := by
  unfold Numeral.scan? at h
  split at h
  · have := scanUnsigned?_length h
    grind
  · exact scanUnsigned?_length h

/-! ### Tokens -/

/-- The tokens of a text; after the first failure nothing but `broken`. -/
def scan (cs : List Char) : List Token :=
  match cs with
  | [] => []
  | ' ' :: rest => scan rest
  | '\t' :: rest => scan rest
  | '\n' :: rest => scan rest
  | '\r' :: rest => scan rest
  | '\x7b' :: rest => openBrace :: scan rest
  | '\x7d' :: rest => closeBrace :: scan rest
  | '[' :: rest => openBracket :: scan rest
  | ']' :: rest => closeBracket :: scan rest
  | ':' :: rest => colon :: scan rest
  | ',' :: rest => comma :: scan rest
  | 'n' :: 'u' :: 'l' :: 'l' :: rest => null :: scan rest
  | 't' :: 'r' :: 'u' :: 'e' :: rest => bool true :: scan rest
  | 'f' :: 'a' :: 'l' :: 's' :: 'e' :: rest => bool false :: scan rest
  | '"' :: rest =>
    match h : scanString? rest with
    | some (units, after) =>
      have := scanString?_length h
      string ((joinUnits? units).map String.ofList) :: scan after
    | none => [broken]
  | c :: rest =>
    match h : Numeral.scan? (c :: rest) with
    | some (numeral, after) =>
      have := scanNumeral?_length h
      number numeral.value? :: scan after
    | none => [broken]
termination_by cs.length
decreasing_by all_goals grind

end Token

end TrackerTraffic.Json
