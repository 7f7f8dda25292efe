/-
  Quoting a text for a reader: double quotes around it, a backslash form for what would break the
  quotes or the line, and the code point of every character that cannot be shown as itself.
-/

import RouteIndex.Text.Digit
import RouteIndex.Text.Shown

namespace RouteIndex.Text

/-- How one character stands between the quotes. -/
def quoteChar (c : Char) : List Char :=
  match c with
  | '\x00' => ['\\', '0']
  | '\t' => ['\\', 't']
  | '\r' => ['\\', 'r']
  | '\n' => ['\\', 'n']
  | '"' => ['\\', '"']
  | '\\' => ['\\', '\\']
  | c => if isShown c then [c] else '\\' :: 'u' :: '\x7b' :: hexDigits 0 c.toNat ++ ['\x7d']

/-- The text between double quotes. -/
def quoted (s : String) : String :=
  String.ofList ('"' :: s.toList.flatMap quoteChar ++ ['"'])

end RouteIndex.Text
