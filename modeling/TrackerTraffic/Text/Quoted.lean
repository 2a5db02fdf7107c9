import TrackerTraffic.Text.BinaryProperty
import TrackerTraffic.Text.Category
import TrackerTraffic.Text.Hex

/-!
# Quoted text in messages

A text between quotation marks with everything escaped that does not show: marks
and backslashes, line ends, and by their code points the characters that have no
shape of their own or join the one before.
-/

namespace TrackerTraffic.Text

/-- The hexadecimal digits of a number without leading zeros. -/
def hexDigits (n : Nat) : List Char := (Nat.toDigits 16 n)

/-- The categories of characters without a shape; the space has none but is shown. -/
def shapeless : List Category := [.cc, .cf, .co, .cn, .zl, .zp, .zs]

def isShown (c : Char) : Bool :=
  c == ' ' ||
    !(shapeless.any (·.contains c) || BinaryProperty.graphemeExtend.table.contains c.toNat)

def quotedChar (c : Char) : List Char :=
  match c with
  | '\x00' => ['\\', '0']
  | '\t' => ['\\', 't']
  | '\r' => ['\\', 'r']
  | '\n' => ['\\', 'n']
  | '"' => ['\\', '"']
  | '\\' => ['\\', '\\']
  | c => if isShown c then [c] else ['\\', 'u', '\x7b'] ++ hexDigits c.toNat ++ ['\x7d']

def quoted (s : String) : String := String.ofList ('"' :: s.toList.flatMap quotedChar ++ ['"'])

end TrackerTraffic.Text
