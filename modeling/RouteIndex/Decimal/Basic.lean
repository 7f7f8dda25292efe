/-
  Decimals: numbers of the form `digits · 10 ^ exponent`, none of them negative.

  `Decimal.read?` takes the usual forms (`12`, `1.5`, `.5`, `1.`, `1e-7`).  A decimal may be as
  large or as small as its exponent says, so nothing here writes it out: `size` is the place of its
  first digit, and a comparison looks at `size` before it multiplies.
-/

import RouteIndex.Text.Digit

namespace RouteIndex

/-- The number `digits · 10 ^ exponent`. -/
structure Decimal where
  digits : Nat
  exponent : Int
  deriving DecidableEq, Repr, Inhabited

namespace Decimal

/-- The number of decimal digits of a number; none for zero. -/
def width (n : Nat) : Nat :=
  if n = 0 then 0 else (Text.digitsOf n).length

/-- A decimal that is not zero lies below `10 ^ size` and not below `10 ^ (size - 1)`. -/
def size (d : Decimal) : Int :=
  width d.digits + d.exponent

/-! ## Reading -/

/-- The exponent after the mantissa: nothing, or a mark and an integer. -/
def exponent? : List Char → Option Int
  | [] => some 0
  | c :: cs => if c = 'e' || c = 'E' then Text.readInteger? cs else none

/-- The digits of a text before its point and after it, and its exponent. -/
def parts? (cs : List Char) : Option (List Char × List Char × Int) := do
  let whole := cs.takeWhile Char.isDigit
  let rest := cs.dropWhile Char.isDigit
  let (fraction, rest) := match rest with
    | '.' :: rest => (rest.takeWhile Char.isDigit, rest.dropWhile Char.isDigit)
    | rest => ([], rest)
  let exponent ← exponent? rest
  return (whole, fraction, exponent)

/-- The number that a text denotes: digits, perhaps with a point, and perhaps an exponent. -/
def read? (cs : List Char) : Option Decimal := do
  let (whole, fraction, exponent) ← parts? cs
  let digits ← Text.readNumber? (whole ++ fraction)
  return ⟨digits, exponent - fraction.length⟩

/-! ## Writing -/

/-- The number in positional notation; it has a point only if digits come after it. -/
def plain (d : Decimal) : List Char :=
  let digits := Text.digitsOf d.digits
  if 0 ≤ d.exponent then digits ++ List.replicate d.exponent.toNat '0'
  else
    let places := (-d.exponent).toNat
    let filled := List.replicate (places + 1 - digits.length) '0' ++ digits
    filled.take (filled.length - places) ++ '.' :: filled.drop (filled.length - places)

/-- The number in positional notation, with at least one digit on each side of the point. -/
def positional (d : Decimal) : List Char :=
  if 0 ≤ d.exponent then d.plain ++ ['.', '0'] else d.plain

end Decimal

end RouteIndex
