/-
  JSON values.

  Two things that a reader of JSON text has to tell apart are kept in the value:

  * a string literal may hold the escape of one half of a surrogate pair; it is well formed, but it
    denotes no text.  Strings and keys are therefore an `Option String`, `none` for such a literal;
  * a number is an `int` when it is written as one, and a `decimal` in every other form (a point, an
    exponent, or the integer that no integer type holds, `-0`), kept as it was written.

  An object is the list of its fields as they were written, repeated keys included.
-/

import RouteIndex.Text.Digit

namespace RouteIndex

/-- A JSON value. -/
inductive Json where
  | null
  | bool (b : Bool)
  | int (i : Int)
  | decimal (lexeme : List Char)
  | str (text : Option String)
  | arr (items : List Json)
  | obj (fields : List (Option String × Json))
  deriving Inhabited

namespace Json

/-- A string that denotes the text `s`. -/
def text (s : String) : Json :=
  .str (some s)

/-- A number that is not negative. -/
def nat (n : Nat) : Json :=
  .int n

/-- An object whose keys are plain texts. -/
def object (fields : List (String × Json)) : Json :=
  .obj (fields.map fun (key, v) => (some key, v))

/-- An array of texts. -/
def texts (ss : List String) : Json :=
  .arr (ss.map text)

/-! ## Nesting -/

mutual

/-- The number of objects and arrays that are open at the deepest point of the value. -/
def depth : Json → Nat
  | .arr items => depthOfItems items + 1
  | .obj fields => depthOfFields fields + 1
  | _ => 0

/-- The depth of the deepest item. -/
def depthOfItems : List Json → Nat
  | [] => 0
  | v :: vs => max v.depth (depthOfItems vs)

/-- The depth of the deepest field. -/
def depthOfFields : List (Option String × Json) → Nat
  | [] => 0
  | (_, v) :: fs => max v.depth (depthOfFields fs)

end

/-! ## Order of keys -/

/-- Whether the first key does not come after the second one; `none` comes first. -/
def keyLe : Option String → Option String → Bool
  | none, _ => true
  | some _, none => false
  | some a, some b => a ≤ b

mutual

/-- The same value with the fields of every object in ascending order of their keys. -/
def sorted : Json → Json
  | .arr items => .arr (sortedItems items)
  | .obj fields => .obj ((sortedFields fields).mergeSort fun f g => keyLe f.1 g.1)
  | v => v

/-- `sorted` on every item. -/
def sortedItems : List Json → List Json
  | [] => []
  | v :: vs => v.sorted :: sortedItems vs

/-- `sorted` on every field's value. -/
def sortedFields : List (Option String × Json) → List (Option String × Json)
  | [] => []
  | (key, v) :: fs => (key, v.sorted) :: sortedFields fs

end

end Json

end RouteIndex
