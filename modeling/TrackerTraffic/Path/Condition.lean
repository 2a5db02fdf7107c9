import TrackerTraffic.Json.Coercion
import TrackerTraffic.Path.Syntax
import TrackerTraffic.Text.CaseMap
import TrackerTraffic.Text.Integer
import TrackerTraffic.Text.Search
import TrackerTraffic.Text.Utf16

/-!
# Evaluating conditions

An operand comes to a value, to nothing (`undefined`) or to a pattern.  Equality,
order and truth follow the rules of the scripts that the conditions come from:
loose equality and order convert scalars to numbers, strict equality does not.
-/

namespace TrackerTraffic.Path

/-- What an operand comes to. -/
inductive Outcome where
  | undefined
  | value (value : Json)
  | pattern (pattern : Pattern)

namespace Outcome

/-- The value, if the outcome is one. -/
def value? : Outcome → Option Json
  | .value v => some v
  | _ => none

def ofOption : Option Json → Outcome
  | some v => .value v
  | none => .undefined

def isTruthy : Outcome → Bool
  | undefined => false
  | value v => v.isTruthy
  | pattern _ => true

/-- The outcome is missing or `null`. -/
def isNullish : Outcome → Bool
  | undefined => true
  | value v => v.isNull
  | pattern _ => false

end Outcome

/-! ### Access -/

/-- The item at a position, counted from the end if negative. -/
def itemAt? (items : List Json) (position : Int) : Option Json :=
  if position < 0 then
    if items.length < position.natAbs then none else items[items.length - position.natAbs]?
  else items[position.toNat]?

/-- The member of a value: of an object by name, of an array by position, and the two lengths. -/
def member? (name : String) : Json → Option Json
  | .object members => Json.lookup name members
  | .array items =>
    if name = "length" then some (.ofNat items.length)
    else (Text.unsigned? name.toList).bind (items[·]?)
  | .string s => if name = "length" then some (.ofNat (Utf16.length s.toList)) else none
  | _ => none

def Outcome.member (name : String) (o : Outcome) : Outcome :=
  .ofOption (o.value?.bind (member? name))

/-- The item of an outcome at a position; outside arrays the position is a name. -/
def Outcome.index (position : Int) (o : Outcome) : Outcome :=
  match o with
  | .value (.array items) => .ofOption (itemAt? items position)
  | o => o.member (toString position)

/-! ### Comparison -/

/-- Equality without conversion: numbers by value, anything else structurally. -/
def strictEqValues (a b : Json) : Bool :=
  match a, b with
  | .number m, .number n => m.toBinary64.valueEq n.toBinary64
  | a, b => a.sameAs b

/-- Equality of outcomes without conversion; a pattern equals nothing. -/
def strictEq (a b : Outcome) : Bool :=
  match a, b with
  | .undefined, .undefined => true
  | .value v, .value w => strictEqValues v w
  | _, _ => false

/-- The value is an array or an object. -/
def isContainer : Json → Bool
  | .array _ => true
  | .object _ => true
  | _ => false

/-- Equality of values that are not null: as numbers, unless both are text or one is a container. -/
def looseEqValues (a b : Json) : Bool :=
  match a, b with
  | .string s, .string t => s == t
  | a, b =>
    if isContainer a || isContainer b then a.sameAs b
    else
      match a.toNumber?, b.toNumber? with
      | some x, some y => x.valueEq y
      | _, _ => false

/-- Equality of outcomes with conversion; what is missing equals `null`. -/
def looseEq (a b : Outcome) : Bool :=
  if a.isNullish || b.isNullish then a.isNullish && b.isNullish
  else
    match a.value?, b.value? with
    | some v, some w => looseEqValues v w
    | _, _ => false

/-- The order of two texts, by code points. -/
def compareTexts : List Char → List Char → Ordering
  | [], [] => .eq
  | [], _ :: _ => .lt
  | _ :: _, [] => .gt
  | c :: cs, d :: ds => if c < d then .lt else if d < c then .gt else compareTexts cs ds

/-- The order of two outcomes: of texts as texts, otherwise as numbers. -/
def relation (a b : Outcome) : Option Ordering :=
  match a.value?, b.value? with
  | some (.string s), some (.string t) => some (compareTexts s.toList t.toList)
  | some v, some w =>
    match v.toNumber?, w.toNumber? with
    | some x, some y => x.compare y
    | _, _ => none
  | _, _ => none

def Comparison.holds (c : Comparison) (a b : Outcome) : Bool :=
  match c with
  | .strictEq => Path.strictEq a b
  | .strictNe => !Path.strictEq a b
  | .looseEq => Path.looseEq a b
  | .looseNe => !Path.looseEq a b
  | .lt => relation a b == some .lt
  | .le => relation a b == some .lt || relation a b == some .eq
  | .gt => relation a b == some .gt
  | .ge => relation a b == some .gt || relation a b == some .eq

/-! ### Methods -/

def argumentText? (arguments : List Outcome) : Option String :=
  (arguments.head?.bind Outcome.value?).map Json.text

def Method.call (method : Method) (target : Outcome) (arguments : List Outcome) : Outcome :=
  let truth (b : Bool) : Outcome := .value (.bool b)
  match method with
  | .startsWith =>
    match target, argumentText? arguments with
    | .value (.string s), some start => truth (Text.startsWith s start)
    | _, _ => .undefined
  | .endsWith =>
    match target, argumentText? arguments with
    | .value (.string s), some stop => truth (Text.endsWith s stop)
    | _, _ => .undefined
  | .includes =>
    match target, arguments.head?.bind Outcome.value? with
    | .value (.string s), some part => truth (Text.contains s part.text)
    | .value (.array items), some part => truth (items.any (strictEqValues · part))
    | _, _ => .undefined
  | .matchPattern =>
    match target, arguments.head? with
    | .value (.string s), some (.pattern p) => truth (p.occursIn s)
    | _, _ => .undefined
  | .test =>
    match target, arguments.head?.bind Outcome.value? with
    | .pattern p, some v => truth (p.occursIn v.text)
    | .pattern _, none => truth false
    | _, _ => .undefined
  | .toLowerCase =>
    match target with
    | .value (.string s) => .value (.string (Text.toLower s))
    | _ => .undefined
  | .toUpperCase =>
    match target with
    | .value (.string s) => .value (.string (Text.toUpper s))
    | _ => .undefined

/-! ### Operands and conditions -/

/-- What a base comes to for a child and its key. -/
def Base.outcome (current key : Json) : Base → Outcome
  | .current => .value current
  | .key => .value key
  | .literal v => .value v
  | .undefined => .undefined
  | .pattern p => .pattern p

mutual
/-- What an operand comes to for a child and its key. -/
def Operand.outcome (current key : Json) : Operand → Outcome
  | .mk base accessors => accessAll current key (base.outcome current key) accessors

def accessAll (current key : Json) (target : Outcome) : List Accessor → Outcome
  | [] => target
  | accessor :: rest => accessAll current key (accessor.apply current key target) rest

def Accessor.apply (current key : Json) (target : Outcome) : Accessor → Outcome
  | .member name => target.member name
  | .index position => target.index position
  | .call method arguments => method.call target (outcomes current key arguments)

def outcomes (current key : Json) : List Operand → List Outcome
  | [] => []
  | operand :: rest => operand.outcome current key :: outcomes current key rest
end

/-- The condition holds for a child and its key. -/
def Filter.holds (current key : Json) : Filter → Bool
  | .or a b => a.holds current key || b.holds current key
  | .and a b => a.holds current key && b.holds current key
  | .not a => !a.holds current key
  | .compare left c right => c.holds (left.outcome current key) (right.outcome current key)
  | .truthy operand => (operand.outcome current key).isTruthy

end TrackerTraffic.Path
