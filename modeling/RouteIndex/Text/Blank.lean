/-
  Blank characters and the two ways in which the library cuts a text: trimming its blank ends
  (`trim`) and splitting it at a separator (`cut?` at the first one, `pieces` at every one).

  All of them work on `List Char`, so that a law about a text is an induction on its characters;
  the `String` forms beside them are for the fields of records.
-/

namespace RouteIndex.Text

/-! ## Blank characters -/

/-- The property White_Space of the Unicode standard. -/
def isBlank (c : Char) : Bool :=
  let n := c.toNat
  (9 ≤ n && n ≤ 13) || n == 0x20 || n == 0x85 || n == 0xA0 || n == 0x1680 ||
    (0x2000 ≤ n && n ≤ 0x200A) || n == 0x2028 || n == 0x2029 || n == 0x202F || n == 0x205F ||
    n == 0x3000

/-- The text without the blanks at its two ends. -/
def trim (cs : List Char) : List Char :=
  ((cs.dropWhile isBlank).reverse.dropWhile isBlank).reverse

/-- `trim` for strings. -/
def strip (s : String) : String :=
  String.ofList (trim s.toList)

/-- Whether nothing but blanks stands in the text. -/
def isBlankText (cs : List Char) : Bool :=
  cs.all isBlank

/-! ## Cutting at a separator -/

/-- What stands before and after the first `sep`, if there is one. -/
def cut? (sep : Char) : List Char → Option (List Char × List Char)
  | [] => none
  | c :: cs =>
    if c = sep then some ([], cs) else (cut? sep cs).map fun (before, after) => (c :: before, after)

/-- The pieces between the separators: always one more than there are separators. -/
def pieces (sep : Char) : List Char → List (List Char)
  | [] => [[]]
  | c :: cs =>
    if c = sep then [] :: pieces sep cs
    else match pieces sep cs with
      | [] => [[c]]
      | p :: ps => (c :: p) :: ps

end RouteIndex.Text
