/-
  Doubles: the numbers that a binary floating point number of sixty-four bits can hold, none of them
  negative, and the way between them and decimals.

  A double is `mantissa · 2 ^ exponent` with a mantissa below `2 ^ 53`.  `ofDecimal?` rounds a decimal
  to the nearest double, `times?` does so with a product, and `shortest` gives back the shortest
  decimal that rounds to a double.  All of them compare products of natural numbers, so no step is
  inexact.
-/

import RouteIndex.Decimal.Basic

namespace RouteIndex

/-- The number `mantissa · 2 ^ exponent`. -/
structure Double where
  mantissa : Nat
  exponent : Int
  deriving DecidableEq, Repr, Inhabited

namespace Double

/-- The exponent of the smallest doubles. -/
def leastExponent : Int :=
  -1074

/-- The mantissas lie below this number; those of all but the smallest doubles are at least half of
it. -/
def mantissaBound : Nat :=
  Nat.pow 2 53

/-- Zero. -/
def zero : Double :=
  ⟨0, leastExponent⟩

/-- The place of a double among all of them in ascending order; zero is at the first place. -/
def place (x : Double) : Nat :=
  (x.exponent - leastExponent).toNat * (mantissaBound / 2) + x.mantissa

/-- `base ^ e`, or one when `e` is negative. -/
def power (base : Nat) (e : Int) : Nat :=
  base.pow e.toNat

/-! ## From decimals -/

/-- The integer nearest to `n / d`; of two that are equally near, the even one. -/
def nearest (n d : Nat) : Nat :=
  let k := n / d
  let twice := 2 * (n % d)
  if twice < d || (twice = d && k % 2 = 0) then k else k + 1

/-- The double nearest to `n / d`, both positive, unless that is too large. -/
def ofRatio? (n d : Nat) : Option Double :=
  let guess : Int := (Nat.log2 n : Int) - Nat.log2 d - 53
  let fits := n * power 2 (-guess) < mantissaBound * d * power 2 guess
  let exponent := max leastExponent (if fits then guess else guess + 1)
  let m := nearest (n * power 2 (-exponent)) (d * power 2 exponent)
  let (m, exponent) := if m = mantissaBound then (m / 2, exponent + 1) else (m, exponent)
  if exponent ≤ 971 then some ⟨m, exponent⟩ else none

/-- The double nearest to a decimal, unless that is too large. -/
def ofDecimal? (d : Decimal) : Option Double :=
  if d.digits = 0 || d.size < -330 then some zero
  else if 310 < d.size then none
  else ofRatio? (d.digits * power 10 d.exponent) (power 10 (-d.exponent))

/-- The double nearest to the product of two of them, unless that is too large. -/
def times? (x y : Double) : Option Double :=
  let m := x.mantissa * y.mantissa
  let exponent := x.exponent + y.exponent
  if m = 0 then some zero else ofRatio? (m * power 2 exponent) (power 2 (-exponent))

/-! ## To decimals

In quarters of its last binary place a double is `4 * mantissa`; the numbers that round to it lie
between the two bounds, which belong to it when the mantissa is even. -/

/-- The bounds of the numbers that round to a double, in quarters of its last place. -/
def bounds (x : Double) : Nat × Nat :=
  let isFirst := x.mantissa = mantissaBound / 2 && leastExponent < x.exponent
  (4 * x.mantissa - (if isFirst then 1 else 2), 4 * x.mantissa + 2)

/-- The multiple of `10 ^ e` that rounds to a double, if there is one: of the two neighbours of the
double on that grid the nearer one, and the larger one if they are equally near. -/
def onGrid? (x : Double) (e : Int) : Option Decimal :=
  let quarter := power 2 (x.exponent - 2) * power 10 (-e)
  let step := power 10 e * power 2 (2 - x.exponent)
  let value := 4 * x.mantissa * quarter
  let low := x.bounds.1 * quarter
  let high := x.bounds.2 * quarter
  let even := x.mantissa % 2 = 0
  let rounds (k : Nat) : Bool :=
    (low < k * step && k * step < high) || (even && (low = k * step || k * step = high))
  let k := value / step
  match rounds k, rounds (k + 1) with
  | true, true =>
    if value - k * step < (k + 1) * step - value then some ⟨k, e⟩ else some ⟨k + 1, e⟩
  | true, false => some ⟨k, e⟩
  | false, true => some ⟨k + 1, e⟩
  | false, false => none

/-- The exponents of ten whose grids are tried, coarsest first: the first of them is above the
double, and the last one leaves seventeen digits. -/
def grids (x : Double) : List Int :=
  let top : Int := ((Nat.log2 x.mantissa : Int) + x.exponent + 1) * 1233 / 4096 + 1
  (List.range 19).map fun (i : Nat) => top - i

/-- The decimal with the fewest digits that rounds to a double, and of those the nearest one. -/
def shortest (x : Double) : Decimal :=
  if x.mantissa = 0 then ⟨0, 0⟩ else (x.grids.findSome? x.onGrid?).getD ⟨x.mantissa, 0⟩

end Double

namespace Decimal

/-- Whether the number is near enough to some double to be rounded to it. -/
def isFinite (d : Decimal) : Bool :=
  (Double.ofDecimal? d).isSome

end Decimal

end RouteIndex
