import TrackerTraffic.Pattern.Escape

/-!
# Character classes in brackets

Classes hold characters, ranges, named sets and nested classes, and combine them
with `&&`, `--` and `~~`, which group to the left.  The height of a class counts
its nesting.
-/

namespace TrackerTraffic.Pattern

/-- A set and the height of the text that describes it. -/
structure SizedSet where
  set : CharSet
  height : Nat

/-- The operators between parts of a class. -/
inductive SetOperator where
  | inter
  | diff
  | symmDiff

/-- What is open around the part of a class that is being read. -/
inductive ClassFrame where
  | outer (items : List SizedSet) (negated : Bool)
  | operand (left : SizedSet) (operator : SetOperator)

/-- The union of parts, newest first. -/
def joinItems (items : List SizedSet) : SizedSet :=
  match items with
  | [] => ⟨.none, 0⟩
  | [item] => item
  | items => ⟨.unionAll (items.reverse.map (·.set)), 1 + (items.map (·.height)).foldl max 0⟩

def applyOperator (flags : Flags) (left : SizedSet) (operator : SetOperator) (right : SizedSet) :
    SizedSet :=
  let a := flags.fold left.set
  let b := flags.fold right.set
  let set :=
    match operator with
    | .inter => .inter a b
    | .diff => .diff a b
    | .symmDiff => .symmDiff a b
  ⟨set, 1 + max left.height right.height⟩

/-- Completes the operator that waits for its right side, if one does. -/
def closeOperand (flags : Flags) (right : SizedSet) : List ClassFrame → SizedSet × List ClassFrame
  | .operand left operator :: frames => (applyOperator flags left operator right, frames)
  | frames => (right, frames)

/-- Leading hyphens of a class, which stand for themselves. -/
def leadingHyphens (flags : Flags) : Nat → List SizedSet → List Char → List SizedSet × List Char
  | 0, items, cs => (items, cs)
  | limit + 1, items, cs =>
    match cs with
    | '-' :: rest => leadingHyphens flags limit (⟨.single '-', 0⟩ :: items) (flags.skip rest)
    | cs => (items, cs)

/-- The start of a class behind its bracket: a negation, and what stands for itself only here. -/
def openClass (flags : Flags) (cs : List Char) : Bool × List SizedSet × List Char :=
  let (negated, cs) :=
    match flags.skip cs with
    | '^' :: rest => (true, flags.skip rest)
    | cs => (false, cs)
  let (items, cs) := leadingHyphens flags cs.length [] cs
  match items, cs with
  | [], ']' :: rest => (negated, [⟨.single ']', 0⟩], flags.skip rest)
  | items, cs => (negated, items, cs)

/-- A set named between `[:` and `:]`, behind the bracket. -/
def asciiSet? (flags : Flags) (cs : List Char) : Option (Option CharSet × List Char) := do
  let ':' :: cs := cs | none
  let (negated, cs) :=
    match cs with
    | '^' :: rest => (true, rest)
    | cs => (false, cs)
  let name := cs.takeWhile (· != ':')
  let ':' :: ']' :: rest := cs.dropWhile (· != ':') | none
  let set ← CharSet.ofAsciiName? name
  return (flags.negate? negated (flags.fold set), rest)

def classAtom? (flags : Flags) : List Char → Option (Atom × List Char)
  | [] => none
  | '\\' :: rest => escape? flags rest
  | c :: rest => some (.literal c false, rest)

/-- The set of an atom that stands alone. -/
def atomSet? (flags : Flags) : Atom → Option CharSet
  | .literal c _ => if flags.allows c then some (.single c) else none
  | .set set => some set
  | .look _ => none

/-- A character, set or range of a class. -/
def classItem? (flags : Flags) (cs : List Char) : Option (SizedSet × List Char) := do
  let (first, rest) ← classAtom? flags cs
  let rest := flags.skip rest
  let alone : Option (SizedSet × List Char) := do return (⟨← atomSet? flags first, 0⟩, rest)
  match rest with
  | [] => none
  | '-' :: behind =>
    match flags.skip behind with
    | ']' :: _ => alone
    | '-' :: _ => alone
    | behind =>
      let (last, rest) ← classAtom? flags behind
      match first, last with
      | .literal a _, .literal b _ =>
        if flags.allows a && flags.allows b && a.toNat ≤ b.toNat then
          return (⟨.range a.toNat b.toNat, 0⟩, rest)
        else none
      | _, _ => none
  | _ => alone

/-- Reads a class behind its bracket; each round takes a character, so `limit` suffices. -/
def classBody? (flags : Flags) :
    Nat → List ClassFrame → List SizedSet → List Char → Option (SizedSet × List Char)
  | 0, _, _, _ => none
  | limit + 1, frames, items, cs =>
    match flags.skip cs with
    | [] => none
    | '[' :: rest =>
      match asciiSet? flags rest with
      | some (none, _) => none
      | some (some set, rest) => classBody? flags limit frames (⟨set, 0⟩ :: items) rest
      | none =>
        let (negated, first, rest) := openClass flags rest
        classBody? flags limit (.outer items negated :: frames) first rest
    | ']' :: rest =>
      let (part, frames) := closeOperand flags (joinItems items) frames
      match frames with
      | .outer items negated :: frames =>
        match flags.negate? negated (flags.fold part.set) with
        | none => none
        | some set =>
          let closed : SizedSet := ⟨set, 1 + part.height⟩
          if frames.isEmpty then some (closed, rest)
          else classBody? flags limit frames (closed :: items) rest
      | _ => none
    | '&' :: '&' :: rest =>
      let (left, frames) := closeOperand flags (joinItems items) frames
      classBody? flags limit (.operand left .inter :: frames) [] rest
    | '-' :: '-' :: rest =>
      let (left, frames) := closeOperand flags (joinItems items) frames
      classBody? flags limit (.operand left .diff :: frames) [] rest
    | '~' :: '~' :: rest =>
      let (left, frames) := closeOperand flags (joinItems items) frames
      classBody? flags limit (.operand left .symmDiff :: frames) [] rest
    | cs =>
      match classItem? flags cs with
      | none => none
      | some (item, rest) => classBody? flags limit frames (item :: items) rest

def class? (flags : Flags) (cs : List Char) : Option (SizedSet × List Char) :=
  let (negated, items, rest) := openClass flags cs
  classBody? flags (rest.length + 1) [.outer [] negated] items rest

end TrackerTraffic.Pattern
