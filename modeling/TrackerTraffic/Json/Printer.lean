import TrackerTraffic.Json.Basic
import TrackerTraffic.Number.Shortest
import TrackerTraffic.Text.Hex

/-!
# Compact JSON text

No spaces, members in order; the two quoting characters and the control
characters below space are escaped and nothing else.
-/

namespace TrackerTraffic.Json

def escapeChar (c : Char) : List Char :=
  match c with
  | '"' => ['\\', '"']
  | '\\' => ['\\', '\\']
  | '\x08' => ['\\', 'b']
  | '\x0c' => ['\\', 'f']
  | '\n' => ['\\', 'n']
  | '\r' => ['\\', 'r']
  | '\t' => ['\\', 't']
  | c =>
    if c.toNat < 32 then
      ['\\', 'u', '0', '0', Text.hexDigit (c.toNat / 16), Text.hexDigit (c.toNat % 16)]
    else [c]

def quote (s : String) : String :=
  String.ofList ('"' :: s.toList.flatMap escapeChar ++ ['"'])

def Number.text : Number → String
  | .integer n => toString n
  | .float x => x.text

mutual
/-- The text of a value, without spaces. -/
def compact : Json → String
  | null => "null"
  | bool b => if b then "true" else "false"
  | number n => n.text
  | string s => quote s
  | array items => "[" ++ compactItems items ++ "]"
  | object members => "\x7b" ++ compactMembers members ++ "\x7d"

/-- The items, separated by commas. -/
def compactItems : List Json → String
  | [] => ""
  | [v] => compact v
  | v :: rest => compact v ++ "," ++ compactItems rest

/-- The members, separated by commas. -/
def compactMembers : Members → String
  | [] => ""
  | [(n, v)] => quote n ++ ":" ++ compact v
  | (n, v) :: rest => quote n ++ ":" ++ compact v ++ "," ++ compactMembers rest
end

end TrackerTraffic.Json
