import TrackerTraffic.Adapter.Predicate

/-!
# Predicates as documents

A predicate is a record whose member `kind` names its form, or a list that starts
with the name.  A document is read from its leaves upwards: a `Prospect` is a value
together with what it gives as a predicate and as a list of predicates, so that a
form only picks what it needs.
-/

namespace TrackerTraffic.RequestPredicate

/-- The forms that a document can name. -/
inductive Form where
  | contentStartsWith
  | contentMatches
  | headerEquals
  | headerPresent
  | methodIs
  | queryContains
  | all
  | any
  | not
deriving DecidableEq

namespace Form

/-- Every form, in order. -/
def every : List Form :=
  [.contentStartsWith, .contentMatches, .headerEquals, .headerPresent, .methodIs, .queryContains,
    .all, .any, .not]

def name : Form → String
  | contentStartsWith => "contentStartsWith"
  | contentMatches => "contentMatches"
  | headerEquals => "headerEquals"
  | headerPresent => "headerPresent"
  | methodIs => "methodIs"
  | queryContains => "queryContains"
  | all => "all"
  | any => "any"
  | not => "not"

def title : Form → String
  | contentStartsWith => "ContentStartsWith"
  | contentMatches => "ContentMatches"
  | headerEquals => "HeaderEquals"
  | headerPresent => "HeaderPresent"
  | methodIs => "MethodIs"
  | queryContains => "QueryContains"
  | all => "All"
  | any => "Any"
  | not => "Not"

end Form

/-- A value with what it gives as a predicate and as a list of predicates. -/
structure Prospect where
  value : Json
  alone : Except ShapeError RequestPredicate
  listed : Except ShapeError (List RequestPredicate)

/-! ### Forms -/

def textField (name : String) (make : String → RequestPredicate) :
    List (Field Prospect ShapeError (Option RequestPredicate)) :=
  [.must name (fun p => Reader.string p.value) fun text _ => some (make text)]

def listField (make : List RequestPredicate → RequestPredicate) :
    List (Field Prospect ShapeError (Option RequestPredicate)) :=
  [.must "of" Prospect.listed fun of _ => some (make of)]

/-- Enters the value of a header's name into an unfinished comparison. -/
def withName (name : String) : Option RequestPredicate → Option RequestPredicate
  | some (headerEquals _ value) => some (headerEquals name value)
  | _ => some (headerEquals name "")

/-- Enters the expected value into an unfinished comparison. -/
def withValue (value : String) : Option RequestPredicate → Option RequestPredicate
  | some (headerEquals name _) => some (headerEquals name value)
  | _ => some (headerEquals "" value)

def Form.fields : Form → List (Field Prospect ShapeError (Option RequestPredicate))
  | contentStartsWith => textField "prefix" .contentStartsWith
  | contentMatches =>
    [.must "regex" (fun p => Regex.read p.value) fun regex _ => some (.contentMatches regex)]
  | headerEquals =>
    [.must "name" (fun p => Reader.string p.value) withName,
      .must "value" (fun p => Reader.string p.value) withValue]
  | headerPresent => textField "name" .headerPresent
  | methodIs => textField "method" .methodIs
  | queryContains => textField "needle" .queryContains
  | all => listField .all
  | any => listField .any
  | not => [.must "predicate" Prospect.alone fun predicate _ => some (.not predicate)]

/-- A finished record; every form has a field that must be given. -/
def finished : Option RequestPredicate → Except ShapeError RequestPredicate
  | some p => .ok p
  | none => .error (.missingField "kind")

/-! ### Documents -/

/--
The form that the value of `kind` names; inside another predicate, its position among
the forms will do.
-/
def readForm (nested : Bool) : Json → Except ShapeError Form
  | .string s => Reader.variant Form.name Form.every s
  | .number (.integer n) =>
    if nested ∧ 0 ≤ n then
      match Form.every[n.toNat]? with
      | some form => .ok form
      | none =>
        .error (.wrongValue (Json.number (.integer n)).described
          s!"variant index 0 <= i < {Form.every.length}")
    else .error (.wrongType (Json.number (.integer n)).described "variant identifier")
  | v => .error (.wrongType v.described "variant identifier")

/-- A predicate from the members of an object. -/
def ofMembers (nested : Bool) (entries : List (String × Prospect)) :
    Except ShapeError RequestPredicate :=
  match entries.find? (·.1 == "kind") with
  | none => .error (.missingField "kind")
  | some (_, kind) => do
    let form ← readForm nested kind.value
    finished (← Reader.ofEntries form.fields false none (entries.filter (·.1 != "kind")))

/-- A predicate from a list that starts with the name of a form. -/
def ofItems (nested : Bool) : List Prospect → Except ShapeError RequestPredicate
  | [] => .error (.missingField "kind")
  | kind :: items => do
    let form ← readForm nested kind.value
    finished (← Reader.ofItems s!"struct variant RequestPredicate::{form.title}" form.fields
      s!"{elements form.fields.length} in sequence" none items)

/-- The error for a value that is neither a record nor a list. -/
def notTagged (v : Json) : ShapeError :=
  .wrongType v.described "internally tagged enum RequestPredicate"

mutual
def prospect : Json → Prospect
  | .object members =>
    ⟨.object members, ofMembers true (memberProspects members),
      .error (.wrongType "map" "a sequence")⟩
  | .array items =>
    let inner := itemProspects items
    ⟨.array items, ofItems true inner, inner.mapM Prospect.alone⟩
  | v => ⟨v, .error (notTagged v), .error (.wrongType v.described "a sequence")⟩

def itemProspects : List Json → List Prospect
  | [] => []
  | v :: rest => prospect v :: itemProspects rest

def memberProspects : List (String × Json) → List (String × Prospect)
  | [] => []
  | (name, v) :: rest => (name, prospect v) :: memberProspects rest
end

def read : Reader RequestPredicate
  | .object members => ofMembers false (memberProspects members)
  | .array items => ofItems false (itemProspects items)
  | v => .error (notTagged v)

end TrackerTraffic.RequestPredicate
