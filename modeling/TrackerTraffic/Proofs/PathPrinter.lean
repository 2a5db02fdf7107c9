import TrackerTraffic.Path.Parser
import TrackerTraffic.Proofs.Decimal

/-!
# Writing paths

The text of a list of segments: the root sign and every segment in brackets, two
points in front of a descent.  Conditions that are operands of others stand in
parentheses wherever the grammar wants them; a layout says how many spaces stand
around signs and where else there are parentheses.
-/

namespace TrackerTraffic.Path

/-! ### Texts -/

/-- The choices of a writer. -/
structure Layout where
  spaces : Nat
  encloses : Filter → Bool
  encloses_or : ∀ a b, encloses (.or a b) = true
  encloses_and : ∀ a b, encloses (.and a b) = true

/-- One space around signs, and no parentheses but those that the grammar wants. -/
def Layout.plain : Layout where
  spaces := 1
  encloses
    | .or _ _ | .and _ _ => true
    | _ => false
  encloses_or _ _ := rfl
  encloses_and _ _ := rfl

def escape (c : Char) : List Char := if c = '\\' ∨ c = '\'' then ['\\', c] else [c]

def quoted (text : String) : List Char := '\'' :: (text.toList.flatMap escape ++ ['\''])

/-- A base; literals that are floats or containers, and patterns, are not written. -/
def Base.text : Base → List Char
  | .current => ['@']
  | .key => '@' :: keyName
  | .literal (.string text) => quoted text
  | .literal (.number (.integer i)) => (toString i).toList
  | .literal (.bool true) => "true".toList
  | .literal (.bool false) => "false".toList
  | .literal .null => "null".toList
  | .undefined => "undefined".toList
  | _ => []

namespace Layout

def gap (layout : Layout) : List Char := List.replicate layout.spaces ' '

mutual
def operand (layout : Layout) : Operand → List Char
  | .mk base accessors => base.text ++ layout.accessors accessors

def accessors (layout : Layout) : List Accessor → List Char
  | [] => []
  | first :: rest => layout.accessor first ++ layout.accessors rest

def accessor (layout : Layout) : Accessor → List Char
  | .member name => '[' :: (quoted name ++ [']'])
  | .index i => '[' :: ((toString i).toList ++ [']'])
  | .call method args => '.' :: (method.name.toList ++ '(' :: (layout.arguments args ++ [')']))

def arguments (layout : Layout) : List Operand → List Char
  | [] => []
  | first :: rest => layout.operand first ++ layout.furtherArguments rest

def furtherArguments (layout : Layout) : List Operand → List Char
  | [] => []
  | first :: rest => ',' :: (layout.gap ++ layout.operand first) ++ layout.furtherArguments rest
end

def sign (layout : Layout) (text : String) : List Char := layout.gap ++ text.toList ++ layout.gap

/-- A condition's text as an operand's: in parentheses if the layout says so. -/
def enclosed (layout : Layout) (condition : Filter) (text : List Char) : List Char :=
  if layout.encloses condition then '(' :: (text ++ [')']) else text

def filter (layout : Layout) : Filter → List Char
  | .or a b =>
    layout.enclosed a (layout.filter a) ++ layout.sign "||" ++ layout.enclosed b (layout.filter b)
  | .and a b =>
    layout.enclosed a (layout.filter a) ++ layout.sign "&&" ++ layout.enclosed b (layout.filter b)
  | .not a => '!' :: layout.enclosed a (layout.filter a)
  | .compare left comparison right =>
    layout.operand left ++ layout.sign comparison.sign ++ layout.operand right
  | .truthy operand => layout.operand operand

def segment (layout : Layout) : Segment → List Char
  | .child name => '[' :: (quoted name ++ [']'])
  | .index i => '[' :: ((toString i).toList ++ [']'])
  | .wildcard => "[*]".toList
  | .filter condition => "[?(".toList ++ layout.filter condition ++ ")]".toList
  | .descendant inner => "..".toList ++ layout.segment inner

def path (layout : Layout) (segments : List Segment) : List Char :=
  '$' :: segments.flatMap layout.segment

end Layout

/-! ### What can be written -/

/-- The integer has 64 bits. -/
def Fits (i : Int) : Prop := -2 ^ 63 ≤ i ∧ i < 2 ^ 63

/-- The base has a text: it is no pattern, and a literal is a string, an integer, a truth value
or null. -/
def Base.Printable : Base → Prop
  | .literal (.number (.integer i)) => Fits i
  | .literal (.number (.float _)) | .literal (.array _) | .literal (.object _) | .pattern _ => False
  | _ => True

/-- The base is a number, whose text goes on behind a point. -/
def Base.isNumber : Base → Bool
  | .literal (.number _) => true
  | _ => false

def startsWithCall : List Accessor → Bool
  | .call _ _ :: _ => true
  | _ => false

mutual
def Operand.Printable : Operand → Prop
  | .mk base accessors =>
    base.Printable ∧ AccessorsPrintable accessors ∧
      ¬(base.isNumber = true ∧ startsWithCall accessors = true)

def AccessorsPrintable : List Accessor → Prop
  | [] => True
  | first :: rest => first.Printable ∧ AccessorsPrintable rest

def Accessor.Printable : Accessor → Prop
  | .member _ => True
  | .index i => Fits i
  | .call _ args => OperandsPrintable args

def OperandsPrintable : List Operand → Prop
  | [] => True
  | first :: rest => first.Printable ∧ OperandsPrintable rest
end

def Filter.Printable : Filter → Prop
  | .or a b => a.Printable ∧ b.Printable
  | .and a b => a.Printable ∧ b.Printable
  | .not a => a.Printable
  | .compare left _ right => left.Printable ∧ right.Printable
  | .truthy operand => operand.Printable

def Segment.isDescent : Segment → Bool
  | .descendant _ => true
  | _ => false

/-- The segment has a text: its numbers and operands have, and it descends once at most. -/
def Segment.Printable : Segment → Prop
  | .child _ => True
  | .index i => Fits i
  | .wildcard => True
  | .filter condition => condition.Printable
  | .descendant inner => inner.Printable ∧ inner.isDescent = false

end TrackerTraffic.Path
