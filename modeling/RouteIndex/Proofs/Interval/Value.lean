/-
  The value of interval literals.

  The reading checks the parts of a literal one after the other and computes in words; what the parts
  denote is told here in numbers, without an order and without words.

  1. **Numerals** — what digits denote does not depend on how it is computed; zeros behind a fraction
     multiply it (`numeral_fillFraction`).
  2. **Checks** — `Check.all` is the order in which the parts are looked at, and `Parts.Fails` says
     what each check refuses.  A `verdict` on some checks is a value if the parts pass them all, and
     the error of the first one that they fail otherwise; computations one after the other make their
     checks one after the other (`verdict_bind`).
  3. **Words** — behind the checks the words are small enough that no operation leaves its range
     (`isExact_words`).
  4. **`value_eq_verdict`** — so the reading of the parts is the verdict on all checks, with the length
     of time that the parts denote.
-/

import Mathlib.Algebra.Group.Nat.Defs
import RouteIndex.Proofs.Interval.Shape
import RouteIndex.Proofs.Text.Blank

namespace RouteIndex.Interval

/-! ## Words -/

/-- A number is a word exactly if the word denotes it.  This is how the checked operations of the
code are compared with the exact ones, which fail where the result is no word. -/
theorem word?_eq_some_iff {n : Nat} {w : UInt64} : word? n = some w ↔ w.toNat = n := by
  have hw : w.toNat < 2 ^ 64 := w.toNat_lt
  have hbound : bound = 2 ^ 64 := rfl
  unfold word?
  by_cases hn : n < bound
  · rw [if_pos hn, Option.some.injEq]
    constructor
    · rintro rfl
      exact UInt64.toNat_ofNat_of_lt' hn
    · rintro rfl
      exact UInt64.ofNat_toNat
  · rw [if_neg hn]
    constructor
    · intro h
      nomatch h
    · intro h
      omega

theorem word?_of_lt {n : Nat} (h : n < 2 ^ 64) : word? n = some (UInt64.ofNat n) :=
  if_pos h

/-- A number that is too large is no word, and not the word that is left when it is cut. -/
theorem word?_of_le {n : Nat} (h : 2 ^ 64 ≤ n) : word? n = none :=
  if_neg (Nat.not_lt.mpr h)

/-! ## Numerals -/

/-- The number that digits denote. -/
def numeral (digits : List Char) : Nat :=
  Nat.ofDigitChars 10 digits 0

/-- Nothing but ASCII digits. -/
def IsAscii (digits : List Char) : Prop :=
  ∀ c ∈ digits, c.isDigit = true

theorem isAscii_iff_all {digits : List Char} : IsAscii digits ↔ digits.all Char.isDigit = true :=
  List.all_eq_true.symm

/-- The first digit of a numeral counts as often as a power of ten says that has as many zeros as
there are digits behind it. -/
theorem numeral_cons (c : Char) (digits : List Char) :
    numeral (c :: digits) = 10 ^ digits.length * (c.toNat - '0'.toNat) + numeral digits := by
  rw [numeral, Nat.ofDigitChars_cons, Nat.ofDigitChars_eq_ofDigitChars_zero]
  rw [Nat.mul_zero, Nat.zero_add, numeral]

/-- So many digits denote a number below this power of ten.  The bound on the ticks of a fraction
rests on it, since a fraction has at most seven digits. -/
theorem numeral_lt {digits : List Char} (h : IsAscii digits) :
    numeral digits < 10 ^ digits.length := by
  induction digits with
  | nil => decide
  | cons c digits ih =>
    have hc := Char.isDigit_iff_toNat.mp (h c List.mem_cons_self)
    have hrest := ih fun d hd => h d (List.mem_cons_of_mem c hd)
    have hdigit : c.toNat - '0'.toNat ≤ 9 := by
      have hnine : '9'.toNat = '0'.toNat + 9 := rfl
      omega
    have hfirst := Nat.mul_le_mul_left (10 ^ digits.length) hdigit
    rw [numeral_cons, List.length_cons, Nat.pow_succ]
    omega

/-- Zeros behind a fraction fill it up to seven places, and each of them multiplies it by ten. -/
theorem numeral_fillFraction {digits : List Char} :
    numeral (fillFraction digits) = 10 ^ (7 - digits.length) * numeral digits := by
  rw [numeral, fillFraction, Nat.ofDigitChars_append, Nat.ofDigitChars_replicate_zero, numeral]

/-- The zeros are ASCII digits, so filling up does not decide whether the check of a fraction is
passed. -/
theorem isAscii_fillFraction_iff {digits : List Char} :
    IsAscii (fillFraction digits) ↔ IsAscii digits := by
  constructor
  · intro h c hc
    exact h c (List.mem_append_left _ hc)
  · intro h c hc
    rcases List.mem_append.mp hc with hc | hc
    · exact h c hc
    · rw [List.eq_of_mem_replicate hc]
      decide

/-- A fraction that is filled up has seven places. -/
theorem length_fillFraction {digits : List Char} (h : digits.length ≤ 7) :
    (fillFraction digits).length = 7 := by
  rw [fillFraction, List.length_append, List.length_replicate]
  omega

/-! ## The numbers of the parts -/

instance (digits : List Char) : Decidable (IsAscii digits) :=
  inferInstanceAs (Decidable (∀ c ∈ digits, c.isDigit = true))

/-- Digits denote a number that fits in a word. -/
def Fits (digits : List Char) : Prop :=
  IsAscii digits ∧ numeral digits < 2 ^ 64

instance (digits : List Char) : Decidable (Fits digits) :=
  inferInstanceAs (Decidable (_ ∧ _))

/-- The digits of a part. -/
def Parts.digits? (p : Parts) : Component → Option (List Char)
  | .days => p.days
  | .hours => some p.hours
  | .minutes => some p.minutes
  | .seconds => p.seconds
  | .fraction => p.fraction

/-- The number of a part; one that is left out counts as zero. -/
def Parts.number (p : Parts) (c : Component) : Nat :=
  ((p.digits? c).map numeral).getD 0

/-- The seconds of all parts together. -/
def Parts.total (p : Parts) : Nat :=
  86400 * p.number .days + 3600 * p.number .hours + 60 * p.number .minutes + p.number .seconds

/-- The nanoseconds of the fraction, whose digits are its decimal places. -/
def Parts.nanos (p : Parts) : Nat :=
  match p.fraction with
  | some digits => numeral digits * 10 ^ (9 - digits.length)
  | none => 0

/-- The length of time that the parts denote. -/
def Parts.interval (p : Parts) : Interval :=
  ⟨p.total, p.nanos⟩

/-- The greatest number that a part may have, if there is one. -/
def Component.limit? : Component → Option Nat
  | .hours => some 23
  | .minutes | .seconds => some 59
  | .days | .fraction => none

/-- Up to seven digits fit in a word, whatever they are. -/
theorem fits_of_length {digits : List Char} (h : IsAscii digits) (hlength : digits.length ≤ 7) :
    Fits digits := by
  have hpow : 10 ^ digits.length ≤ 10 ^ 7 := Nat.pow_le_pow_right (by decide) hlength
  have hlt := numeral_lt h
  exact ⟨h, by omega⟩

/-- ASCII digits are read as the number that they denote. -/
theorem readNumber?_of_isAscii {digits : List Char} (hne : digits ≠ []) (h : IsAscii digits) :
    Text.readNumber? digits = some (numeral digits) := by
  have hempty : digits.isEmpty = false := List.isEmpty_eq_false_iff.mpr hne
  rw [Text.readNumber?, hempty, isAscii_iff_all.mp h]
  rfl

/-- Other digits are no number for the reader, although the shape of a literal allows them. -/
theorem readNumber?_of_not_isAscii {digits : List Char} (h : ¬ IsAscii digits) :
    Text.readNumber? digits = none := by
  rw [isAscii_iff_all, Bool.not_eq_true] at h
  rw [Text.readNumber?, h, Bool.and_false]
  rfl

variable {literal : String} {c : Component} {digits : List Char} {p : Parts}

/-- A part whose digits fit in a word is this word. -/
theorem component_of_fits (hne : digits ≠ []) (h : Fits digits) :
    component literal c digits = .ok (UInt64.ofNat (numeral digits)) := by
  rw [component, readNumber?_of_isAscii hne h.1, Option.bind_some, word?_of_lt h.2]

/-- **A part is out of range in both ways in which its digits can fail**: if they are no ASCII
digits, and if they are too many.  Both come to the same error. -/
theorem component_of_not_fits (hne : digits ≠ []) (h : ¬ Fits digits) :
    component literal c digits = .error (.outOfRange literal c) := by
  by_cases hascii : IsAscii digits
  · have hlarge : 2 ^ 64 ≤ numeral digits := Nat.not_lt.mp fun hlt => h ⟨hascii, hlt⟩
    rw [component, readNumber?_of_isAscii hne hascii, Option.bind_some, word?_of_le hlarge]
  · rw [component, readNumber?_of_not_isAscii hascii, Option.bind_none]

/-! ## Checks -/

/-- One thing that the parts of a literal are refused for. -/
inductive Check where
  /-- The digits of a part are no ASCII digits, or their number does not fit in a word. -/
  | number (c : Component)
  /-- The number of a part is greater than it may be. -/
  | range (c : Component)
  /-- The digits of the fraction are no ASCII digits. -/
  | fraction
  /-- The sum does not fit in a word. -/
  | total
  deriving DecidableEq, Repr

/-- The checks in front of the sum, in their order. -/
def Check.ofParts : List Check :=
  [.number .days, .number .hours, .number .minutes, .number .seconds, .range .hours, .range .minutes,
    .range .seconds, .fraction]

/-- All checks, in their order. -/
def Check.all : List Check :=
  ofParts ++ [.total]

/-- The part that is named when a check fails. -/
def Check.component : Check → Component
  | .number c | .range c => c
  | .fraction => .fraction
  | .total => .days

/-- The parts do not pass a check. -/
def Parts.Fails (p : Parts) : Check → Prop
  | .number c => ∃ digits ∈ p.digits? c, ¬ Fits digits
  | .range c => ∃ limit ∈ c.limit?, limit < p.number c
  | .fraction => ∃ digits ∈ p.fraction, ¬ IsAscii digits
  | .total => 2 ^ 64 ≤ p.total

instance (p : Parts) : DecidablePred p.Fails
  | .number c => inferInstanceAs (Decidable (∃ digits ∈ p.digits? c, ¬ Fits digits))
  | .range c => inferInstanceAs (Decidable (∃ limit ∈ c.limit?, limit < p.number c))
  | .fraction => inferInstanceAs (Decidable (∃ digits ∈ p.fraction, ¬ IsAscii digits))
  | .total => inferInstanceAs (Decidable (2 ^ 64 ≤ p.total))

variable (literal p) in
/-- What some checks come to: a value if the parts pass them, or else the error of the first one that
they fail. -/
def verdict {α : Type} (checks : List Check) (a : α) : Except Error α :=
  match checks.find? (p.Fails ·) with
  | some k => .error (.outOfRange literal k.component)
  | none => .ok a

/-- The parts pass the checks exactly if no failed one is found among them. -/
theorem find?_eq_none_iff {checks : List Check} :
    checks.find? (p.Fails ·) = none ↔ ∀ k ∈ checks, ¬ p.Fails k := by
  rw [List.find?_eq_none]
  exact forall₂_congr fun k _ => not_congr decide_eq_true_iff

theorem verdict_of_passed {α : Type} {checks : List Check} {a : α}
    (h : ∀ k ∈ checks, ¬ p.Fails k) : verdict literal p checks a = .ok a := by
  rw [verdict, find?_eq_none_iff.mpr h]

/-- A verdict is a value exactly if all checks are passed.  Together with `verdict_eq_error_iff` it
turns the code, which stops at the first failure, into a statement about a list of checks. -/
theorem verdict_eq_ok_iff {α : Type} {checks : List Check} {a b : α} :
    verdict literal p checks a = .ok b ↔ (∀ k ∈ checks, ¬ p.Fails k) ∧ a = b := by
  constructor
  · intro h
    cases hfind : checks.find? (p.Fails ·) with
    | some k =>
      rw [verdict, hfind] at h
      nomatch h
    | none =>
      rw [verdict, hfind] at h
      exact ⟨find?_eq_none_iff.mp hfind, Except.ok.inj h⟩
  · rintro ⟨h, rfl⟩
    exact verdict_of_passed h

/-- A verdict is an error exactly if some check fails, and then it is the error of the first one.
Which part a refusal names is told from here. -/
theorem verdict_eq_error_iff {α : Type} {checks : List Check} {a : α} {e : Error} :
    verdict literal p checks a = .error e ↔
      ∃ k, checks.find? (p.Fails ·) = some k ∧ e = .outOfRange literal k.component := by
  unfold verdict
  cases checks.find? (p.Fails ·) with
  | some k => simp [eq_comm]
  | none => simp

/-- One check that is passed. -/
theorem verdict_single_of_passed {α : Type} {k : Check} {a : α} (h : ¬ p.Fails k) :
    verdict literal p [k] a = .ok a := by
  refine verdict_of_passed fun j hj => ?_
  rw [List.mem_singleton.mp hj]
  exact h

/-- One check that fails. -/
theorem verdict_single_of_failed {α : Type} {k : Check} {a : α} (h : p.Fails k) :
    verdict literal p [k] a = .error (.outOfRange literal k.component) := by
  have hfind : [k].find? (p.Fails ·) = some k := List.find?_cons_of_pos (decide_eq_true h)
  rw [verdict, hfind]

/-- **Computations one after the other make their checks one after the other**; the later one may
build on what the earlier one has checked.  This is the only law that composes verdicts. -/
theorem verdict_bind {α β : Type} {checks more : List Check} {a : α} {b : β}
    {f : α → Except Error β} (hf : (∀ k ∈ checks, ¬ p.Fails k) → f a = verdict literal p more b) :
    (verdict literal p checks a >>= f) = verdict literal p (checks ++ more) b := by
  unfold verdict
  rw [List.find?_append]
  cases hfind : checks.find? (p.Fails ·) with
  | some k => rfl
  | none => exact hf (find?_eq_none_iff.mp hfind)

/-! ## The checks of each part -/

/-- A part that is there has the number of its digits. -/
theorem number_of_digits? (h : p.digits? c = some digits) : p.number c = numeral digits := by
  rw [Parts.number, h, Option.map_some, Option.getD_some]

theorem number_of_none (h : p.digits? c = none) : p.number c = 0 := by
  rw [Parts.number, h]
  rfl

/-- The first check of a part that is there: its digits have to fit in a word. -/
theorem fails_number_iff (h : p.digits? c = some digits) : p.Fails (.number c) ↔ ¬ Fits digits := by
  show (∃ other ∈ p.digits? c, ¬ Fits other) ↔ _
  rw [h]
  constructor
  · rintro ⟨_, ⟨⟩, hother⟩
    exact hother
  · intro hfits
    exact ⟨digits, rfl, hfits⟩

/-- The digits of a part that passes its check fit in a word. -/
theorem fits_of_passed (hpass : ¬ p.Fails (.number c)) (h : p.digits? c = some digits) :
    Fits digits :=
  Decidable.not_not.mp fun hfits => hpass ⟨digits, h, hfits⟩

/-- Reading a part is the check that its digits fit in a word. -/
theorem component_eq_verdict (h : p.digits? c = some digits) (hne : digits ≠ []) :
    component literal c digits = verdict literal p [.number c] (UInt64.ofNat (p.number c)) := by
  by_cases hfits : Fits digits
  · have hpass : ¬ p.Fails (.number c) := fun hfails => (fails_number_iff h).mp hfails hfits
    rw [component_of_fits hne hfits, verdict_single_of_passed hpass, number_of_digits? h]
  · rw [component_of_not_fits hne hfits, verdict_single_of_failed ((fails_number_iff h).mpr hfits)]
    rfl

/-- A part that is left out passes its check and counts as zero, so that optional parts are like the
others. -/
theorem optionalComponent_eq_verdict (hne : ∀ digits ∈ p.digits? c, digits ≠ []) :
    optionalComponent literal c (p.digits? c) =
      verdict literal p [.number c] (UInt64.ofNat (p.number c)) := by
  cases h : p.digits? c with
  | some digits => exact component_eq_verdict h (hne digits h)
  | none =>
    have hpass : ¬ p.Fails (.number c) := by
      rintro ⟨digits, hdigits, -⟩
      rw [h] at hdigits
      nomatch hdigits
    rw [verdict_single_of_passed hpass, number_of_none h]
    rfl

/-- The number of a part that passes its check fits in a word, so nothing is lost in the word. -/
theorem toNat_word_number (hpass : ¬ p.Fails (.number c)) :
    (UInt64.ofNat (p.number c)).toNat = p.number c := by
  refine UInt64.toNat_ofNat_of_lt' ?_
  cases h : p.digits? c with
  | some digits =>
    rw [number_of_digits? h]
    exact (fits_of_passed hpass h).2
  | none =>
    rw [number_of_none h]
    decide

/-- The test of a range is made on words.  Behind the first check of the part it is a test of the
number. -/
theorem inRange_eq_verdict {limit : UInt64} (hlimit : c.limit? = some limit.toNat)
    (hpass : ¬ p.Fails (.number c)) :
    inRange literal c (UInt64.ofNat (p.number c) ≤ limit) = verdict literal p [.range c] () := by
  -- The number fits a word, so comparing words compares numbers.
  have hle : UInt64.ofNat (p.number c) ≤ limit ↔ p.number c ≤ limit.toNat := by
    rw [UInt64.le_iff_toNat_le, toNat_word_number hpass]
  have hfails : p.Fails (.range c) ↔ limit.toNat < p.number c := by
    show (∃ l ∈ c.limit?, l < p.number c) ↔ _
    rw [hlimit]
    constructor
    · rintro ⟨_, ⟨⟩, h⟩
      exact h
    · intro h
      exact ⟨limit.toNat, rfl, h⟩
  by_cases h : p.number c ≤ limit.toNat
  · rw [inRange, decide_eq_true (hle.mpr h), verdict_single_of_passed (by rw [hfails]; omega)]
    rfl
  · rw [inRange, decide_eq_false fun hword => h (hle.mp hword),
      verdict_single_of_failed (hfails.mpr (Nat.lt_of_not_le h))]
    rfl

/-- The fraction in tenths of a microsecond. -/
def Parts.ticks (p : Parts) : Nat :=
  ((p.fraction.map fillFraction).map numeral).getD 0

/-- A fraction of at most seven digits always fits in a word; what is left of its check is that its
digits are ASCII digits. -/
theorem fraction_eq_verdict (h : p.IsShaped) :
    optionalComponent literal .fraction (p.fraction.map fillFraction) =
      verdict literal p [.fraction] (UInt64.ofNat p.ticks) := by
  cases hfraction : p.fraction with
  | none =>
    have hpass : ¬ p.Fails .fraction := by
      rintro ⟨digits, hdigits, -⟩
      rw [hfraction] at hdigits
      nomatch hdigits
    rw [verdict_single_of_passed hpass, Parts.ticks, hfraction]
    rfl
  | some digits =>
    have hlength := length_fillFraction (h.fraction digits hfraction).2
    have hne : fillFraction digits ≠ [] := by
      rw [← List.length_pos_iff, hlength]
      decide
    have hticks : p.ticks = numeral (fillFraction digits) := by
      rw [Parts.ticks, hfraction]
      rfl
    -- Seven digits always fit a word, so only a digit that is not ASCII can fail.
    have hfails : p.Fails .fraction ↔ ¬ Fits (fillFraction digits) := by
      show (∃ other ∈ p.fraction, ¬ IsAscii other) ↔ _
      rw [hfraction]
      constructor
      · rintro ⟨_, ⟨⟩, hother⟩ hfits
        exact hother (isAscii_fillFraction_iff.mp hfits.1)
      · intro hfits
        refine ⟨digits, rfl, fun hascii => hfits ?_⟩
        exact fits_of_length (isAscii_fillFraction_iff.mpr hascii) (Nat.le_of_eq hlength)
    show component literal .fraction (fillFraction digits) = _
    by_cases hfits : Fits (fillFraction digits)
    · rw [component_of_fits hne hfits, verdict_single_of_passed fun hf => hfails.mp hf hfits, hticks]
    · rw [component_of_not_fits hne hfits, verdict_single_of_failed (hfails.mpr hfits)]
      rfl

/-! ## The checks of a literal -/

/-- The numbers of the parts, as words. -/
def Parts.words (p : Parts) : Numbers where
  days := UInt64.ofNat (p.number .days)
  hours := UInt64.ofNat (p.number .hours)
  minutes := UInt64.ofNat (p.number .minutes)
  seconds := UInt64.ofNat (p.number .seconds)
  ticks := UInt64.ofNat p.ticks

/-- **The parts are checked in the given order**: first whether the numbers of all parts fit in
words, then their ranges, and then the fraction. -/
theorem numbers_eq_verdict (h : p.IsShaped) :
    p.numbers literal = verdict literal p Check.ofParts p.words := by
  have hdays : optionalComponent literal .days p.days =
      verdict literal p [.number .days] (UInt64.ofNat (p.number .days)) :=
    optionalComponent_eq_verdict fun digits hdigits => (h.days digits hdigits).ne_nil
  have hhours : component literal .hours p.hours =
      verdict literal p [.number .hours] (UInt64.ofNat (p.number .hours)) :=
    component_eq_verdict rfl h.hours.1.ne_nil
  have hminutes : component literal .minutes p.minutes =
      verdict literal p [.number .minutes] (UInt64.ofNat (p.number .minutes)) :=
    component_eq_verdict rfl h.minutes.1.ne_nil
  have hseconds : optionalComponent literal .seconds p.seconds =
      verdict literal p [.number .seconds] (UInt64.ofNat (p.number .seconds)) :=
    optionalComponent_eq_verdict fun digits hdigits => (h.seconds digits hdigits).1.ne_nil
  have hsingle {k : Check} (hk : ∀ j ∈ [k], ¬ p.Fails j) : ¬ p.Fails k := hk k List.mem_cons_self
  -- The source looks in this order, and each step hands the checks that passed to the next.
  rw [Parts.numbers, hdays]
  refine verdict_bind fun _ => ?_
  rw [hhours]
  refine verdict_bind fun hh => ?_
  rw [hminutes]
  refine verdict_bind fun hm => ?_
  rw [hseconds]
  refine verdict_bind fun hs => ?_
  rw [inRange_eq_verdict rfl (hsingle hh)]
  refine verdict_bind fun _ => ?_
  rw [inRange_eq_verdict rfl (hsingle hm)]
  refine verdict_bind fun _ => ?_
  rw [inRange_eq_verdict rfl (hsingle hs)]
  refine verdict_bind fun _ => ?_
  rw [fraction_eq_verdict h]
  exact verdict_bind fun _ => rfl

/-! ## Arithmetic of words -/

/-- No operation on the numbers leaves the range of its words, and what is to be nanoseconds is less
than a second. -/
structure Numbers.IsExact (n : Numbers) : Prop where
  hours : (n.hours * 3600).toNat = n.hours.toNat * 3600
  minutes : (n.minutes * 60).toNat = n.minutes.toNat * 60
  hours_minutes : (n.hours * 3600 + n.minutes * 60).toNat =
    n.hours.toNat * 3600 + n.minutes.toNat * 60
  clock : n.clock.toNat = n.hours.toNat * 3600 + n.minutes.toNat * 60 + n.seconds.toNat
  nanos : n.nanos.toNat = n.ticks.toNat * 100
  nanos_narrow : n.nanos.toUInt32.toNat = n.nanos.toNat
  nanos_lt : n.nanos.toNat < 10 ^ 9

/-- The ranges of the parts leave room enough for the clock and for the nanoseconds.  Only the days
can make the sum too large, and the sum is checked. -/
theorem Numbers.isExact_of_le {n : Numbers} (hours : n.hours.toNat ≤ 23)
    (minutes : n.minutes.toNat ≤ 59) (seconds : n.seconds.toNat ≤ 59)
    (ticks : n.ticks.toNat < 10 ^ 7) : n.IsExact := by
  -- No product and no sum reaches 2 ^ 64, so none of them wraps.
  have hhours : (n.hours * 3600).toNat = n.hours.toNat * 3600 := by
    rw [UInt64.toNat_mul]
    exact Nat.mod_eq_of_lt (by show n.hours.toNat * 3600 < _; omega)
  have hminutes : (n.minutes * 60).toNat = n.minutes.toNat * 60 := by
    rw [UInt64.toNat_mul]
    exact Nat.mod_eq_of_lt (by show n.minutes.toNat * 60 < _; omega)
  have hsum : (n.hours * 3600 + n.minutes * 60).toNat =
      n.hours.toNat * 3600 + n.minutes.toNat * 60 := by
    rw [UInt64.toNat_add, hhours, hminutes]
    exact Nat.mod_eq_of_lt (by omega)
  have hclock : n.clock.toNat = n.hours.toNat * 3600 + n.minutes.toNat * 60 + n.seconds.toNat := by
    rw [clock, UInt64.toNat_add, hsum]
    exact Nat.mod_eq_of_lt (by omega)
  have hnanos : n.nanos.toNat = n.ticks.toNat * 100 := by
    rw [nanos, UInt64.toNat_mul]
    exact Nat.mod_eq_of_lt (by show n.ticks.toNat * 100 < _; omega)
  have hnarrow : n.nanos.toUInt32.toNat = n.nanos.toNat := by
    rw [UInt64.toNat_toUInt32]
    exact Nat.mod_eq_of_lt (by omega)
  exact ⟨hhours, hminutes, hsum, hclock, hnanos, hnarrow, by omega⟩

/-- The sum is given if it fits in a word: the checked product and the checked sum refuse together
what the number refuses. -/
theorem Numbers.total?_eq (n : Numbers) :
    n.total? = word? (n.days.toNat * 86400 + n.clock.toNat) := by
  have hday : daySeconds.toNat = 86400 := rfl
  rw [total?, times?, hday]
  by_cases h : n.days.toNat * 86400 < 2 ^ 64
  · rw [word?_of_lt h, Option.bind_some, plus?, UInt64.toNat_ofNat_of_lt' h]
  · rw [word?_of_le (by omega), word?_of_le (by omega), Option.bind_none]

/-- Nothing is carried from nanoseconds that are less than a second. -/
theorem ofWords_of_lt (seconds : UInt64) {nanos : UInt32} (h : nanos.toNat < 10 ^ 9) :
    ofWords seconds nanos = ⟨seconds.toNat, nanos.toNat⟩ := by
  have hsecond : secondNanos = 10 ^ 9 := rfl
  rw [ofWords, hsecond, Nat.div_eq_of_lt h, Nat.mod_eq_of_lt h, Nat.add_zero]

/-! ## The value of the parts -/

/-- A fraction in tenths of a microsecond is less than a second. -/
theorem ticks_lt (h : p.IsShaped) (hpass : ¬ p.Fails .fraction) : p.ticks < 10 ^ 7 := by
  cases hfraction : p.fraction with
  | none =>
    rw [Parts.ticks, hfraction]
    decide
  | some digits =>
    have hascii : IsAscii digits := Decidable.not_not.mp fun h => hpass ⟨digits, hfraction, h⟩
    have hlt := numeral_lt (isAscii_fillFraction_iff.mpr hascii)
    rw [length_fillFraction (h.fraction digits hfraction).2] at hlt
    rw [Parts.ticks, hfraction]
    exact hlt

/-- The ticks, in nanoseconds, are the decimal places: filling up to seven places and multiplying by
a hundred is multiplying by what is missing to nine places. -/
theorem ticks_mul (h : p.IsShaped) : p.ticks * 100 = p.nanos := by
  cases hfraction : p.fraction with
  | none =>
    rw [Parts.ticks, Parts.nanos, hfraction]
    rfl
  | some digits =>
    have hlength := (h.fraction digits hfraction).2
    -- Filling up to seven digits and two more places is filling up to nine.
    have hplaces : 9 - digits.length = 7 - digits.length + 2 := by omega
    have hticks : p.ticks = 10 ^ (7 - digits.length) * numeral digits := by
      rw [Parts.ticks, hfraction]
      exact numeral_fillFraction
    have hnanos : p.nanos = numeral digits * 10 ^ (9 - digits.length) := by
      rw [Parts.nanos, hfraction]
    rw [hticks, hnanos, hplaces, Nat.pow_add, Nat.mul_comm _ (numeral digits), Nat.mul_assoc]

/-- The number of a part that passes the test of its range is at most the limit. -/
theorem number_le {limit : Nat} (hlimit : c.limit? = some limit) (hpass : ¬ p.Fails (.range c)) :
    p.number c ≤ limit :=
  Nat.not_lt.mp fun hlt => hpass ⟨limit, hlimit, hlt⟩

/-- Behind the checks, the words are exact: each of them denotes the number of its part, and the
ranges are kept. -/
theorem isExact_words (h : p.IsShaped) (hpass : ∀ k ∈ Check.ofParts, ¬ p.Fails k) :
    p.words.IsExact := by
  refine Numbers.isExact_of_le ?_ ?_ ?_ ?_
  · rw [Parts.words, toNat_word_number (hpass _ (by decide))]
    exact number_le rfl (hpass _ (by decide))
  · rw [Parts.words, toNat_word_number (hpass _ (by decide))]
    exact number_le rfl (hpass _ (by decide))
  · rw [Parts.words, toNat_word_number (hpass _ (by decide))]
    exact number_le rfl (hpass _ (by decide))
  · have hlt := ticks_lt h (hpass .fraction (by decide))
    rw [Parts.words, UInt64.toNat_ofNat_of_lt' (by show p.ticks < 2 ^ 64; omega)]
    exact hlt

/-- **The value of the parts is their length of time, unless a check fails.** The check of the sum
comes last, and it names the days. -/
theorem value_eq_verdict (h : p.IsShaped) :
    p.value literal = verdict literal p Check.all p.interval := by
  rw [Parts.value, numbers_eq_verdict h]
  refine verdict_bind fun hpass => ?_
  have hexact := isExact_words h hpass
  have hticks : p.words.ticks.toNat = p.ticks :=
    UInt64.toNat_ofNat_of_lt' (Nat.lt_trans (ticks_lt h (hpass .fraction (by decide))) (by decide))
  have htotal : p.words.days.toNat * 86400 + p.words.clock.toNat = p.total := by
    have hdays : p.words.days.toNat = p.number .days := toNat_word_number (hpass _ (by decide))
    have hhours : p.words.hours.toNat = p.number .hours := toNat_word_number (hpass _ (by decide))
    have hminutes : p.words.minutes.toNat = p.number .minutes :=
      toNat_word_number (hpass _ (by decide))
    have hseconds : p.words.seconds.toNat = p.number .seconds :=
      toNat_word_number (hpass _ (by decide))
    rw [hexact.clock, hdays, hhours, hminutes, hseconds, Parts.total]
    omega
  -- All numbers are exact by now, and the one check that is left is whether their sum is a word.
  rw [Numbers.total?_eq, htotal]
  by_cases hfit : p.total < 2 ^ 64
  · have hnanos : p.words.nanos.toUInt32.toNat = p.nanos := by
      rw [hexact.nanos_narrow, hexact.nanos, hticks, ticks_mul h]
    have hlt : p.words.nanos.toUInt32.toNat < 10 ^ 9 := by
      rw [hexact.nanos_narrow]
      exact hexact.nanos_lt
    have hpass : ¬ p.Fails .total := fun hfails => absurd hfit (Nat.not_lt.mpr hfails)
    rw [word?_of_lt hfit, verdict_single_of_passed hpass]
    show Except.ok (ofWords _ _) = _
    rw [ofWords_of_lt _ hlt, hnanos, UInt64.toNat_ofNat_of_lt' hfit]
    rfl
  · have hfails : p.Fails .total := Nat.not_lt.mp hfit
    rw [word?_of_le hfails, verdict_single_of_failed hfails]
    rfl

end RouteIndex.Interval
