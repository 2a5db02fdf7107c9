import TrackerTraffic.Pattern.CharSet

/-!
# Matching patterns

A pattern describes texts; `Pattern.occursIn` decides whether some part of a text
fits.  It keeps the set of patterns that the rest of the text still has to fit
and takes derivatives by one character after the other, so its work is bounded
by the length of the text times the number of derivatives.
-/

namespace TrackerTraffic

/-- A condition on the place between two characters. -/
inductive Look where
  | start
  | stop
  | lineStart
  | lineStop
  | lineStartCrlf
  | lineStopCrlf
  | wordBoundary (unicode : Bool)
  | notWordBoundary (unicode : Bool)
  | wordStart (unicode : Bool)
  | wordStop (unicode : Bool)
  | wordStartHalf (unicode : Bool)
  | wordStopHalf (unicode : Bool)
deriving DecidableEq

/-- A pattern. -/
inductive Pattern where
  | empty
  | one (set : CharSet)
  | look (condition : Look)
  | seq (a b : Pattern)
  | alt (a b : Pattern)
  | repeated (a : Pattern) (least : Nat) (most : Option Nat)
deriving DecidableEq

namespace Look

/-- The character, if there is one, can stand in a word. -/
def isWord (unicode : Bool) : Option Char → Bool
  | some c => if unicode then Text.isWordChar c else c.isAlphanum || c == '_'
  | none => false

/-- The condition holds between the characters `before` and `after`. -/
def holds (before after : Option Char) : Look → Bool
  | start => before.isNone
  | stop => after.isNone
  | lineStart => before.isNone || before == some '\n'
  | lineStop => after.isNone || after == some '\n'
  | lineStartCrlf =>
    before.isNone || before == some '\n' || (before == some '\r' && after != some '\n')
  | lineStopCrlf =>
    after.isNone || after == some '\r' || (after == some '\n' && before != some '\r')
  | wordBoundary unicode => isWord unicode before != isWord unicode after
  | notWordBoundary unicode => isWord unicode before == isWord unicode after
  | wordStart unicode => !isWord unicode before && isWord unicode after
  | wordStop unicode => isWord unicode before && !isWord unicode after
  | wordStartHalf unicode => !isWord unicode before
  | wordStopHalf unicode => !isWord unicode after

end Look

namespace Pattern

/-- The pattern fits the empty text at a place between two characters. -/
def fitsEmpty (before after : Option Char) : Pattern → Bool
  | empty => true
  | one _ => false
  | look condition => condition.holds before after
  | seq a b => a.fitsEmpty before after && b.fitsEmpty before after
  | alt a b => a.fitsEmpty before after || b.fitsEmpty before after
  | repeated a least _ => least == 0 || a.fitsEmpty before after

def followedBy (a b : Pattern) : Pattern :=
  match a with
  | empty => b
  | a => seq a b

/--
The patterns one of which the rest of a text has to fit, if the text starts with
`c` behind `before`.  A repeated part that fits the empty text here can make up
for all repetitions that are still required.
-/
def derivatives (before : Option Char) (c : Char) : Pattern → List Pattern
  | empty => []
  | one set => if set.contains c then [empty] else []
  | look _ => []
  | seq a b =>
    (a.derivatives before c).map (followedBy · b) ++
      (if a.fitsEmpty before (some c) then b.derivatives before c else [])
  | alt a b => a.derivatives before c ++ b.derivatives before c
  | repeated a least most =>
    if most = some 0 then []
    else
      let left := if a.fitsEmpty before (some c) then 0 else least - 1
      (a.derivatives before c).map (followedBy · (repeated a left (most.map (· - 1))))

def distinct : List Pattern → List Pattern
  | [] => []
  | a :: rest =>
    let others := distinct rest
    if others.contains a then others else a :: others

/-- Some of the pending patterns fits a start of the text, or `whole` fits a later part of it. -/
def searchFrom (whole : Pattern) (before : Option Char) (pending : List Pattern) :
    List Char → Bool
  | [] => (whole :: pending).any (·.fitsEmpty before none)
  | c :: rest =>
    (whole :: pending).any (·.fitsEmpty before (some c)) ||
      searchFrom whole (some c)
        (distinct ((whole :: pending).flatMap (·.derivatives before c))) rest

/-- Some part of the text fits the pattern. -/
def occursIn (p : Pattern) (text : String) : Bool := p.searchFrom none [] text.toList

/-- A rough count of the bytes of an automaton for the pattern. -/
def weight : Pattern → Nat
  | empty => 32
  | one set => set.weight
  | look _ => 32
  | seq a b => a.weight + b.weight
  | alt a b => a.weight + b.weight + 40
  | repeated a least most =>
    match most with
    | none => a.weight * max 1 least + 40
    | some most => a.weight * most + 40 * (most - least)

end Pattern

end TrackerTraffic
