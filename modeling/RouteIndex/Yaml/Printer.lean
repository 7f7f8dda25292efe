/-
  YAML text from JSON values.

  A mapping has a line for each field, a sequence a line with a dash for each item.  A mapping in a
  mapping is indented by two, a sequence is not; what stands in a sequence begins after the dash.
  The further lines of a scalar are indented by two more than the lines of its container.  Every line
  is ended, by a line feed or by a break that the text of a scalar ends with.
-/

import RouteIndex.Json.Basic
import RouteIndex.Yaml.Scalar

namespace RouteIndex.Yaml

/-- Ends the last line, unless it is ended already. -/
def endLine (cs : List Char) : List Char :=
  if cs.getLast?.any isBreak then cs else cs ++ ['\n']

/-- A key of a mapping. -/
def keyText (key : Option String) : List Char :=
  let cs := (key.getD "").toList
  scalar 0 (keyStyleOf cs) cs

/-- A value that is no container or an empty one; its further lines are indented by `width`. -/
def scalarText (width : Nat) : Json → List Char
  | .null => ['n', 'u', 'l', 'l']
  | .bool true => ['t', 'r', 'u', 'e']
  | .bool false => ['f', 'a', 'l', 's', 'e']
  | .int i => Text.integerDigits i
  | .decimal lexeme => lexeme
  | .str s =>
    let cs := (s.getD "").toList
    scalar width (styleOf cs) cs
  | .arr _ => ['[', ']']
  | .obj _ => ['{', '}']

mutual

/-- The lines of a value that begins in the middle of a line; the further ones are indented by
`width`. -/
def write (width : Nat) : Json → List Char
  | .arr (item :: items) => writeItems width (item :: items)
  | .obj (field :: fields) => writeFields width (field :: fields)
  | v => endLine (scalarText width v)

/-- The lines of a sequence, the indentation of the first one left out. -/
def writeItems (width : Nat) : List Json → List Char
  | [] => []
  | v :: vs =>
    '-' :: ' ' :: write (width + 2) v ++
      (if vs.isEmpty then [] else indentation width ++ writeItems width vs)

/-- The lines of a mapping, the indentation of the first one left out. -/
def writeFields (width : Nat) : List (Option String × Json) → List Char
  | [] => []
  | (key, v) :: fs =>
    keyText key ++ ':' :: writeValue width v ++
      (if fs.isEmpty then [] else indentation width ++ writeFields width fs)

/-- What follows the colon of a field. -/
def writeValue (width : Nat) : Json → List Char
  | .arr (item :: items) => '\n' :: indentation width ++ writeItems width (item :: items)
  | .obj (field :: fields) =>
    '\n' :: indentation (width + 2) ++ writeFields (width + 2) (field :: fields)
  | v => ' ' :: endLine (scalarText (width + 2) v)

end

/-- The YAML text of a value. -/
def text (v : Json) : String :=
  String.ofList (write 0 v)

end RouteIndex.Yaml
