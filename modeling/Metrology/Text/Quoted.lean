import Metrology.Text.Visible

/-!
# Quoted text

Text in messages and dumps stands in double quotes. A quote, a backslash, a line end, a tab and a
null have short escapes; any other character that does not show on its own is written as its code
point.
-/

namespace Metrology.Text

/-- The digits of a code point in base sixteen. -/
def codePoint (c : Char) : List Char :=
  '\\' :: 'u' :: '\x7b' :: Nat.toDigits 16 c.toNat ++ ['\x7d']

/-- The written form of a character inside quotes. -/
def escape (c : Char) : List Char :=
  match c with
  | '\x00' => ['\\', '0']
  | '\t' => ['\\', 't']
  | '\r' => ['\\', 'r']
  | '\n' => ['\\', 'n']
  | '"' => ['\\', '"']
  | '\\' => ['\\', '\\']
  | c => if isVisible c then [c] else codePoint c

/-- The written form of a text, quotes included. -/
def quote (s : String) : String :=
  "\"" ++ String.ofList (s.toList.flatMap escape) ++ "\""

end Metrology.Text
