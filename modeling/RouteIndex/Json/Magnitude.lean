/-
  The size of JSON numbers: which of them lie in the range of a double.

  Two parts of a number are looked at, an integer below `2 ^ 64` and a power of ten.  The integer
  takes the digits of the number for as long as they fit; of the others those before the point count
  as places, and those after it do not count.  The size of the number is the product of the doubles
  nearest to the two parts; so within some units of the last place from the end of the range a number
  may be refused that would still round to a double.
-/

import RouteIndex.Decimal.Double

namespace RouteIndex.Json.Magnitude

/-- The integer and one more digit, if that is still small enough. -/
def push? (n : Nat) (c : Char) : Option Nat :=
  let m := 10 * n + (c.toNat - '0'.toNat)
  if m < Nat.pow 2 64 then some m else none

/-- The integer and the digits before the point. -/
def takeWhole (n : Nat) : List Char → Decimal
  | [] => ⟨n, 0⟩
  | c :: cs => (push? n c).elim ⟨n, cs.length + 1⟩ fun m => takeWhole m cs

/-- The two parts and the digits after the point. -/
def takeFraction (d : Decimal) : List Char → Decimal
  | [] => d
  | c :: cs => (push? d.digits c).elim d fun m => takeFraction ⟨m, d.exponent - 1⟩ cs

/-- The two parts of the number that a text without a sign denotes. -/
def parts? (cs : List Char) : Option Decimal := do
  let (whole, fraction, exponent) ← Decimal.parts? cs
  let d := takeFraction (takeWhole 0 whole) fraction
  return ⟨d.digits, d.exponent + exponent⟩

/-- The product of the doubles nearest to the two parts. -/
def product? (d : Decimal) : Option Double := do
  let n ← Double.ofDecimal? ⟨d.digits, 0⟩
  let power ← Double.ofDecimal? ⟨1, d.exponent⟩
  n.times? power

/-- Whether a number with these parts is not too large; small ones never are. -/
def isInRange (d : Decimal) : Bool :=
  d.digits = 0 || d.exponent < 0 || (product? d).isSome

end RouteIndex.Json.Magnitude
