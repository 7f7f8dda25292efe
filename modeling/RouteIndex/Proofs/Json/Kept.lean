/-
  Values that are kept until their meaning is known.

  A reader that keeps a value refuses a number that is too large for a double.  No integer type holds
  such a number: **an integer of sixty-four bits is always kept** (`lexemeFits_digitsOf`).

  The size of an integer is found by rounding twice, once for the integer itself and once for its
  product with one.  How the rounding goes does not matter here; `ofRatio?_eq` only says how large the
  mantissa and the exponent can get, and both stay far away from the end of the range.
-/

import Mathlib.Algebra.Group.Nat.Defs
import RouteIndex.Json.Fields
import RouteIndex.Proofs.Text.Digits

namespace RouteIndex

/-! ## Rounding -/

namespace Double

/-- Rounding to the nearest integer adds at most one to the quotient. -/
theorem nearest_le (n d : Nat) : nearest n d ≤ n / d + 1 := by
  show (if _ then n / d else n / d + 1) ≤ n / d + 1
  split
  · exact Nat.le_succ _
  · exact Nat.le_refl _

/-- Powers of two grow with their exponents. -/
theorem power_le_power {e e' : Int} (h : e ≤ e') : power 2 e ≤ power 2 e' :=
  Nat.pow_le_pow_right (by decide) (Int.toNat_le_toNat h)

/-- The exponent that a ratio is rounded with, give or take one place. -/
def guess (n d : Nat) : Int :=
  (Nat.log2 n : Int) - Nat.log2 d - 53

/-- A ratio is rounded unless its exponent is too large.  How it is rounded is left open; only the
sizes of the mantissa and of the exponent are told. -/
theorem ofRatio?_eq (n d : Nat) : ∃ (m : Nat) (e : Int),
    e ≤ max leastExponent (guess n d + 1) + 1 ∧ m ≤ n * power 2 (-guess n d) + 1 ∧
    ofRatio? n d = if e ≤ 971 then some ⟨m, e⟩ else none := by
  -- the exponent before the carry
  obtain ⟨e, hlow, hhigh, he⟩ : ∃ e, guess n d ≤ e ∧ e ≤ max leastExponent (guess n d + 1) ∧
      max leastExponent (if n * power 2 (-guess n d) < mantissaBound * d * power 2 (guess n d)
        then guess n d else guess n d + 1) = e := by
    refine ⟨_, ?_, ?_, rfl⟩
    · split <;> omega
    · split <;> omega
  have hm : nearest (n * power 2 (-e)) (d * power 2 e) ≤ n * power 2 (-guess n d) + 1 := by
    have hnearest := nearest_le (n * power 2 (-e)) (d * power 2 e)
    have hdiv := Nat.div_le_self (n * power 2 (-e)) (d * power 2 e)
    have hmul : n * power 2 (-e) ≤ n * power 2 (-guess n d) :=
      Nat.mul_le_mul_left n (power_le_power (by omega))
    omega
  -- mantissa and exponent behind it
  obtain ⟨p, hp⟩ : ∃ p, p = if nearest (n * power 2 (-e)) (d * power 2 e) = mantissaBound
      then (nearest (n * power 2 (-e)) (d * power 2 e) / 2, e + 1)
      else (nearest (n * power 2 (-e)) (d * power 2 e), e) := ⟨_, rfl⟩
  have hratio : ofRatio? n d = if p.2 ≤ 971 then some ⟨p.1, p.2⟩ else none := by
    rw [hp, ← he]
    rfl
  by_cases hcarry : nearest (n * power 2 (-e)) (d * power 2 e) = mantissaBound
  · rw [if_pos hcarry] at hp
    rw [hp] at hratio
    refine ⟨_, e + 1, by omega, ?_, hratio⟩
    omega
  · rw [if_neg hcarry] at hp
    rw [hp] at hratio
    exact ⟨_, e, by omega, hm, hratio⟩

/-- A ratio whose numerator has at most a thousand binary digits is not too large for a double. -/
theorem exists_ofRatio? (n d : Nat) (h : Nat.log2 n ≤ 1000) :
    ∃ (m : Nat) (e : Int), e ≤ max leastExponent (guess n d + 1) + 1 ∧
      m ≤ n * power 2 (-guess n d) + 1 ∧ ofRatio? n d = some ⟨m, e⟩ := by
  obtain ⟨m, e, he, hm, hratio⟩ := ofRatio?_eq n d
  have hleast : leastExponent = -1074 := rfl
  have hguess : guess n d = (Nat.log2 n : Int) - Nat.log2 d - 53 := rfl
  rw [if_pos (by omega)] at hratio
  exact ⟨m, e, he, hm, hratio⟩

/-- One is a power of two, which is rounded to itself. -/
theorem ofDecimal?_one : ofDecimal? ⟨1, 0⟩ = some ⟨2 ^ 52, -52⟩ := by
  decide

/-- An integer of sixty-four bits is rounded to a double, whose exponent is far from the end of the
range. -/
theorem exists_ofDecimal?_of_lt {n : Nat} (h : n < 2 ^ 64) :
    ∃ (m : Nat) (e : Int), e ≤ 20 ∧ m < 2 ^ 120 ∧ ofDecimal? ⟨n, 0⟩ = some ⟨m, e⟩ := by
  by_cases hn : n = 0
  · exact ⟨0, leastExponent, by decide, by decide, by rw [hn]; rfl⟩
  · have hlog : Nat.log2 n < 64 := (Nat.log2_lt hn).mpr h
    have hwidth : (Text.digitsOf n).length ≤ 20 := by
      exact (Nat.length_toDigits_le_iff (by decide) (by decide)).mpr (by omega)
    -- Twenty digits are far from both ends of the range, so the decimal is the ratio over one.
    have hdecimal : ofDecimal? ⟨n, 0⟩ = ofRatio? n 1 := by
      have hsize : Decimal.size ⟨n, 0⟩ = (Text.digitsOf n).length := by
        rw [Decimal.size, Decimal.width, if_neg hn, Int.add_zero]
      have hzero : (decide (n = 0) || decide (Decimal.size ⟨n, 0⟩ < -330)) = false := by
        rw [hsize, decide_eq_false hn, Bool.false_or, decide_eq_false_iff_not]
        omega
      have hlarge : ¬ 310 < Decimal.size ⟨n, 0⟩ := by
        rw [hsize]
        omega
      rw [ofDecimal?, hzero, if_neg Bool.false_ne_true, if_neg hlarge]
      exact congrArg (ofRatio? · 1) (Nat.mul_one n)
    obtain ⟨m, e, he, hm, hratio⟩ := exists_ofRatio? n 1 (by omega)
    have hleast : leastExponent = -1074 := rfl
    have hguess : guess n 1 = (Nat.log2 n : Int) - 53 := by
      have hone : Nat.log2 1 = 0 := by decide
      rw [guess, hone]
      omega
    have hplaces : -guess n 1 ≤ 53 := by omega
    have hpower : power 2 (-guess n 1) ≤ 2 ^ 53 := power_le_power hplaces
    have hmul : n * power 2 (-guess n 1) ≤ 2 ^ 64 * 2 ^ 53 := Nat.mul_le_mul (by omega) hpower
    exact ⟨m, e, by omega, by omega, hdecimal.trans hratio⟩

/-- The product of an integer and one stays in the range: it has no more digits than both of them
together. -/
theorem exists_times?_one {m : Nat} {e : Int} (hm : m < 2 ^ 120) (he : e ≤ 20) :
    ∃ x, times? ⟨m, e⟩ ⟨2 ^ 52, -52⟩ = some x := by
  unfold times?
  by_cases hzero : m * 2 ^ 52 = 0
  · exact ⟨zero, if_pos hzero⟩
  · have hpower : power 2 (e + -52) = 1 := by
      have hexponent : (e + -52).toNat = 0 := Int.toNat_of_nonpos (by omega)
      rw [power, hexponent]
    have hlog : Nat.log2 (m * 2 ^ 52 * power 2 (e + -52)) < 172 := by
      rw [hpower, Nat.mul_one, Nat.log2_lt hzero]
      omega
    -- The product stays below the exponent at which a ratio has no double any more.
    obtain ⟨k, f, -, -, hratio⟩ := exists_ofRatio? (m * 2 ^ 52 * power 2 (e + -52))
      (power 2 (-(e + -52))) (by omega)
    exact ⟨⟨k, f⟩, (if_neg hzero).trans hratio⟩

end Double

namespace Json

open Magnitude

/-! ## Integers -/

/-- Reading more digits never makes a number smaller, so a number that is small in the end was small
all the time. -/
theorem le_ofDigitChars (cs : List Char) : ∀ n : Nat, n ≤ Nat.ofDigitChars 10 cs n := by
  induction cs with
  | nil => exact fun n => Nat.le_refl n
  | cons c cs ih =>
    intro n
    have hrest := ih (10 * n + (c.toNat - '0'.toNat))
    rw [Nat.ofDigitChars_cons]
    omega

/-- Digits are taken into the integer as long as it stays small enough; for a number of sixty-four
bits these are all of them, and no place is left to the exponent. -/
theorem takeWhole_eq (cs : List Char) : ∀ n : Nat, Nat.ofDigitChars 10 cs n < 2 ^ 64 →
    takeWhole n cs = ⟨Nat.ofDigitChars 10 cs n, 0⟩ := by
  induction cs with
  | nil =>
    intro n h
    rw [Nat.ofDigitChars_nil]
    rfl
  | cons c cs ih =>
    intro n h
    rw [Nat.ofDigitChars_cons] at h ⊢
    -- What was pushed is at most the whole number, so it fits as long as that does.
    have hsmall : 10 * n + (c.toNat - '0'.toNat) < 2 ^ 64 :=
      Nat.lt_of_le_of_lt (le_ofDigitChars cs _) h
    have hpush : push? n c = some (10 * n + (c.toNat - '0'.toNat)) := by
      unfold push?
      exact if_pos hsmall
    rw [takeWhole, hpush, Option.elim_some]
    exact ih _ h

/-- The parts of a number that is written as digits. -/
theorem parts?_digitsOf (n : Nat) : Decimal.parts? (Text.digitsOf n) =
    some (Text.digitsOf n, [], 0) := by
  have hend : ∀ c ∈ ([] : List Char).head?, c.isDigit = false := fun c hc => nomatch hc
  have htake := Text.takeWhile_digitsOf_append n hend
  have hdrop := Text.dropWhile_digitsOf_append n hend
  rw [List.append_nil] at htake hdrop
  rw [Decimal.parts?, htake, hdrop]
  rfl

/-- The size of a number is the product of its digits and of a power of ten, each of them rounded. -/
theorem product?_eq {d : Decimal} {x power : Double}
    (hx : Double.ofDecimal? ⟨d.digits, 0⟩ = some x)
    (hpower : Double.ofDecimal? ⟨1, d.exponent⟩ = some power) :
    Magnitude.product? d = x.times? power := by
  rw [Magnitude.product?, hx, hpower]
  rfl

/-- **Every integer of sixty-four bits lies in the range of a double.**  A value that has to be kept
is refused for a number outside of it, so no count that was written is lost in that way. -/
theorem lexemeFits_digitsOf {n : Nat} (h : n < 2 ^ 64) : lexemeFits (Text.digitsOf n) = true := by
  have hvalue : Nat.ofDigitChars 10 (Text.digitsOf n) 0 = n := Nat.ofDigitChars_ten_toDigits
  have hparts : Magnitude.parts? (Text.digitsOf n) = some ⟨n, 0⟩ := by
    have hwhole := takeWhole_eq (Text.digitsOf n) 0 (by rw [hvalue]; exact h)
    rw [hvalue] at hwhole
    rw [Magnitude.parts?, parts?_digitsOf, Option.bind_eq_bind, Option.bind_some]
    simp only [hwhole]
    rfl
  obtain ⟨m, e, he, hm, hfirst⟩ := Double.exists_ofDecimal?_of_lt h
  obtain ⟨x, hx⟩ := Double.exists_times?_one hm he
  have hproduct : Magnitude.product? ⟨n, 0⟩ = some x :=
    (product?_eq hfirst Double.ofDecimal?_one).trans hx
  rw [lexemeFits, hparts, Option.any_some, Magnitude.isInRange, hproduct]
  exact Bool.or_true _

/-- An integer is kept by its absolute value, whatever its sign. -/
theorem fits_int {i : Int} (h : i.natAbs < 2 ^ 64) (levels : Nat) : (int i).fits levels = true :=
  lexemeFits_digitsOf h

theorem fits_text (s : String) (levels : Nat) : (text s).fits levels = true :=
  rfl

/-! ## Fields -/

/-- The fields of a record are kept if each of them has a name and a value that is kept. -/
theorem fieldsFit_eq_all (levels : Nat) (fields : List (Option String × Json)) :
    fieldsFit levels fields = fields.all fun f => f.1.isSome && f.2.fits levels := by
  induction fields with
  | nil => rfl
  | cons f fields ih =>
    obtain ⟨key, v⟩ := f
    rw [fieldsFit, List.all_cons, ih]

/-- A record of values that are kept is kept, one level further out. -/
theorem fits_object {levels : Nat} {fs : List (String × Json)}
    (h : ∀ f ∈ fs, f.2.fits levels = true) : (object fs).fits (levels + 1) = true := by
  show (decide (0 < levels + 1) && fieldsFit levels (fs.map _)) = true
  rw [decide_eq_true (Nat.succ_pos levels), Bool.true_and, fieldsFit_eq_all, List.all_map,
    List.all_eq_true]
  exact h

end Json

end RouteIndex
