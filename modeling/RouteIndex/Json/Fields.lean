/-
  Reading records out of JSON values.

  A record may be given as an object, with its fields in any order and unknown fields among them,
  or as an array of its fields in their order, where fields at the end may be left out.  `fields?`
  brings both forms to one list with a place for each name; what a missing field means is then
  decided by `required`, `optional` or `orElse`.

  `fits` is the condition on a value that has to be kept before its meaning is known: every string
  in it denotes a text, every number lies in the range of a double, and it nests at most so deep.
-/

import RouteIndex.Json.Basic
import RouteIndex.Json.Magnitude

namespace RouteIndex.Json

/-! ## Places for fields -/

/-- The value given for a name, if it is given once; `some none` when it is not given. -/
def field? (fields : List (Option String × Json)) (name : String) : Option (Option Json) :=
  match fields.filter (fun f => f.1 = some name) with
  | [] => some none
  | [(_, v)] => some (some v)
  | _ => none

/-- The values of the named fields, in the order of the names. -/
def fields? (names : List String) : Json → Option (List (Option Json))
  | .obj fields => if fields.all (·.1.isSome) then names.mapM (field? fields) else none
  | .arr items =>
    if items.length ≤ names.length then
      some (items.map some ++ List.replicate (names.length - items.length) none)
    else none
  | _ => none

/-- A field that must be given. -/
def required {α : Type} (read? : Json → Option α) (place : Option Json) : Option α :=
  place.bind read?

/-- A field that may be missing or `null`. -/
def optional {α : Type} (read? : Json → Option α) : Option Json → Option (Option α)
  | none => some none
  | some .null => some none
  | some v => (read? v).map some

/-- A field that stands for `default` when it is missing. -/
def orElse {α : Type} (default : α) (read? : Json → Option α) : Option Json → Option α
  | none => some default
  | some v => read? v

/-! ## Plain values -/

/-- A text. -/
def text? : Json → Option String
  | .str s => s
  | _ => none

/-- A truth value. -/
def bool? : Json → Option Bool
  | .bool b => some b
  | _ => none

/-- An integer in a closed range. -/
def intWithin? (low high : Int) : Json → Option Int
  | .int i => if low ≤ i && i ≤ high then some i else none
  | _ => none

/-- A number from zero to `2 ^ bits - 1`. -/
def natBelow? (bits : Nat) (v : Json) : Option Nat :=
  (intWithin? 0 (Nat.pow 2 bits - 1 : Nat) v).map Int.toNat

/-- All items of an array, each one read alike. -/
def items? {α : Type} (read? : Json → Option α) : Json → Option (List α)
  | .arr items => items.mapM read?
  | _ => none

/-- The name of a variant without fields: a string, or an object that maps it to `null`. -/
def variant? : Json → Option String
  | .str s => s
  | .obj [(key, .null)] => key
  | _ => none

/-! ## Values that are kept -/

/-- Whether the number that a text without a sign denotes lies in the range of a double. -/
def lexemeFits (cs : List Char) : Bool :=
  (Magnitude.parts? cs).any Magnitude.isInRange

mutual

/-- Whether a value can be kept whole, when it may nest `levels` deep. -/
def fits (levels : Nat) : Json → Bool
  | .null | .bool _ => true
  | .int i => lexemeFits (Text.digitsOf i.natAbs)
  | .decimal lexeme => lexemeFits (lexeme.dropWhile (· = '-'))
  | .str s => s.isSome
  | .arr items => 0 < levels && itemsFit (levels - 1) items
  | .obj fields => 0 < levels && fieldsFit (levels - 1) fields

/-- `fits` for every item. -/
def itemsFit (levels : Nat) : List Json → Bool
  | [] => true
  | v :: vs => v.fits levels && itemsFit levels vs

/-- `fits` for every field and its key. -/
def fieldsFit (levels : Nat) : List (Option String × Json) → Bool
  | [] => true
  | (key, v) :: fs => key.isSome && v.fits levels && fieldsFit levels fs

end

end RouteIndex.Json
