/-
  JSON text from JSON values.

  A `Layout` says what stands before an item and after a key; everything else is the same for all
  layouts.  `compact` has no space at all, `pretty` puts each item on its own line, two spaces
  deeper than the container.  Empty containers stay `[]` and `{}` in both.

  A string is written with the short escapes that JSON has for seven characters, the other control
  characters as `\u00xx`, and every other character as itself.
-/

import RouteIndex.Json.Basic

namespace RouteIndex.Json

/-! ## Strings -/

/-- How one character stands between the quotes of a string. -/
def escapeChar (c : Char) : List Char :=
  match c with
  | '"' => ['\\', '"']
  | '\\' => ['\\', '\\']
  | '\x08' => ['\\', 'b']
  | '\x0c' => ['\\', 'f']
  | '\n' => ['\\', 'n']
  | '\r' => ['\\', 'r']
  | '\t' => ['\\', 't']
  | c => if c.toNat < 0x20 then '\\' :: 'u' :: Text.hexDigits 4 c.toNat else [c]

/-- A string literal; one that denotes no text is written as half of a surrogate pair. -/
def literal : Option String → List Char
  | some s => '"' :: s.toList.flatMap escapeChar ++ ['"']
  | none => ['"', '\\', 'u', 'd', '8', '0', '0', '"']

/-! ## Layouts -/

/-- The space that a printer may choose. -/
structure Layout where
  /-- What stands before an item, or before the closing bracket, at a depth of nesting. -/
  line : Nat → List Char
  /-- What stands between a key and its value. -/
  colon : List Char

/-- No space at all. -/
def Layout.compact : Layout where
  line _ := []
  colon := [':']

/-- One line for each item, two spaces deeper for each level. -/
def Layout.pretty : Layout where
  line depth := '\n' :: List.replicate (2 * depth) ' '
  colon := [':', ' ']

/-! ## Values -/

mutual

/-- The text of a value that stands at a depth of nesting. -/
def write (layout : Layout) (depth : Nat) : Json → List Char
  | .null => ['n', 'u', 'l', 'l']
  | .bool true => ['t', 'r', 'u', 'e']
  | .bool false => ['f', 'a', 'l', 's', 'e']
  | .int i => Text.integerDigits i
  | .decimal lexeme => lexeme
  | .str s => literal s
  | .arr items =>
    if items.isEmpty then ['[', ']']
    else '[' :: writeItems layout (depth + 1) items ++ layout.line depth ++ [']']
  | .obj fields =>
    if fields.isEmpty then ['{', '}']
    else '{' :: writeFields layout (depth + 1) fields ++ layout.line depth ++ ['}']

/-- The items of an array, with commas between them. -/
def writeItems (layout : Layout) (depth : Nat) : List Json → List Char
  | [] => []
  | v :: vs =>
    layout.line depth ++ v.write layout depth ++
      (if vs.isEmpty then [] else ',' :: writeItems layout depth vs)

/-- The fields of an object, with commas between them. -/
def writeFields (layout : Layout) (depth : Nat) : List (Option String × Json) → List Char
  | [] => []
  | (key, v) :: fs =>
    layout.line depth ++ literal key ++ layout.colon ++ v.write layout depth ++
      (if fs.isEmpty then [] else ',' :: writeFields layout depth fs)

end

/-- The text without any space. -/
def compact (v : Json) : String :=
  String.ofList (v.write .compact 0)

/-- The text with one line for each item. -/
def pretty (v : Json) : String :=
  String.ofList (v.write .pretty 0)

end RouteIndex.Json
