/-
  Which interval literals are accepted, and what they come to.

  `Denotes` says which texts are lengths of time: a bare number of days, or the parts
  `[d.]hh:mm[:ss[.fffffff]]` in ASCII digits, each in its range, with a sum that sixty-four bits can
  hold.

  1. **Three kinds** — a text is a bare number of days, or it has parts, or it is neither; each kind has
     one equation for the reading (`ofLiteral_of_days`, `ofLiteral_of_shape`, `ofLiteral_of_other`).
  2. **Passing** — all checks are passed exactly if the digits are ASCII digits and the numbers are in
     their ranges (`passes_iff`).
  3. **`ofLiteral_accepts`** — a literal is accepted exactly if it denotes a length of time, which is
     then its value; and the words in which it is computed never leave their range.
-/

import RouteIndex.Proofs.Interval.Value

namespace RouteIndex.Interval

variable {literal : String} {p : Parts} {digits : List Char}

/-! ## Three kinds of literals -/

/-- The reader takes a text for a number of days if it is made of ASCII digits and not empty. -/
theorem isDayCount_iff : isDayCount digits = true ↔ digits ≠ [] ∧ IsAscii digits := by
  rw [isDayCount, Bool.and_eq_true, Bool.not_eq_true', List.isEmpty_eq_false_iff, isAscii_iff_all]

/-- Parts have at least one colon, the one between hours and minutes. -/
theorem colon_mem_text (p : Parts) : ':' ∈ p.text := by
  rw [Parts.text]
  simp only [List.mem_append, List.mem_cons, true_or, or_true]

/-- Parts have a colon between them, so they are no number of days.  The two kinds of literals
exclude each other. -/
theorem isDayCount_text (p : Parts) : isDayCount p.text = false := by
  rw [Bool.eq_false_iff, ne_eq, isDayCount_iff]
  rintro ⟨-, hascii⟩
  exact absurd (hascii ':' (colon_mem_text p)) (by decide)

/-- A bare number of days is refused if its seconds do not fit in a word.  The number itself may fit
where its seconds do not; both come to the same error. -/
theorem ofDays_eq (hne : digits ≠ []) (hascii : IsAscii digits) :
    ofDays literal digits =
      if 86400 * numeral digits < 2 ^ 64 then .ok ⟨86400 * numeral digits, 0⟩
      else .error (.outOfRange literal .days) := by
  have hday : daySeconds.toNat = 86400 := rfl
  unfold ofDays
  by_cases hfits : Fits digits
  · have hdays := UInt64.toNat_ofNat_of_lt' hfits.2
    have htimes : times? (UInt64.ofNat (numeral digits)) daySeconds =
        word? (86400 * numeral digits) := by
      rw [times?, hdays, hday, Nat.mul_comm]
    rw [component_of_fits hne hfits]
    simp only [bind, Except.bind, htimes]
    by_cases h : 86400 * numeral digits < 2 ^ 64
    · have hzero : (0 : UInt32).toNat < 10 ^ 9 := by decide
      rw [if_pos h, word?_of_lt h]
      show Except.ok (ofWords _ _) = _
      rw [ofWords_of_lt _ hzero, UInt64.toNat_ofNat_of_lt' h]
      rfl
    · rw [if_neg h, word?_of_le (Nat.not_lt.mp h)]
  · -- Days that are no word on their own are too many for their seconds as well.
    have hlarge : ¬ 86400 * numeral digits < 2 ^ 64 := by
      intro h
      exact hfits ⟨hascii, by omega⟩
    rw [component_of_not_fits hne hfits, if_neg hlarge]
    rfl

/-- **The first kind**: a bare number of days, blanks at its ends aside. -/
theorem ofLiteral_of_days (ht : Text.trim literal.toList = digits) (hne : digits ≠ [])
    (hascii : IsAscii digits) :
    ofLiteral literal =
      if 86400 * numeral digits < 2 ^ 64 then .ok ⟨86400 * numeral digits, 0⟩
      else .error (.outOfRange literal .days) := by
  have hcount : isDayCount (Text.trim literal.toList) = true := by
    rw [ht]
    exact isDayCount_iff.mpr ⟨hne, hascii⟩
  unfold ofLiteral
  rw [if_pos hcount, ht]
  exact ofDays_eq hne hascii

/-- **The second kind**: a text with parts comes to the verdict on all checks. -/
theorem ofLiteral_of_shape (ht : Text.trim literal.toList = p.text) (h : p.IsShaped) :
    ofLiteral literal = verdict literal p Check.all p.interval := by
  have hparts : Parts.ofText? p.text = some p := Parts.ofText?_eq_some_iff.mpr ⟨h, rfl⟩
  have hcount : ¬ isDayCount p.text = true := by
    rw [isDayCount_text]
    exact Bool.false_ne_true
  unfold ofLiteral
  rw [ht, if_neg hcount, hparts]
  exact value_eq_verdict h

/-- A text is a number of days, or it has the shape of parts. -/
def IsReadable (t : List Char) : Prop :=
  (t ≠ [] ∧ IsAscii t) ∨ ∃ p : Parts, p.IsShaped ∧ p.text = t

/-- **The third kind**: everything else is malformed, and the error has the literal as it was given,
with its blanks. -/
theorem ofLiteral_of_other (h : ¬ IsReadable (Text.trim literal.toList)) :
    ofLiteral literal = .error (.malformed literal) := by
  have hcount : ¬ isDayCount (Text.trim literal.toList) = true :=
    fun hcount => h (Or.inl (isDayCount_iff.mp hcount))
  have hparts : Parts.ofText? (Text.trim literal.toList) = none := by
    rw [Option.eq_none_iff_forall_ne_some]
    intro p hp
    exact h (Or.inr ⟨p, Parts.ofText?_eq_some_iff.mp hp⟩)
  unfold ofLiteral
  rw [if_neg hcount, hparts]

/-! ## Passing all checks -/

/-- All digits are ASCII digits. -/
def Parts.IsAsciiOnly (p : Parts) : Prop :=
  ∀ c, ∀ digits ∈ p.digits? c, IsAscii digits

/-- The checks are passed by ASCII digits whose numbers are in their ranges.  That the number of
each part fits in a word follows from the range of the sum, and need not be said. -/
theorem passes_iff (h : p.IsShaped) :
    (∀ k ∈ Check.all, ¬ p.Fails k) ↔
      p.IsAsciiOnly ∧ p.number .hours ≤ 23 ∧ p.number .minutes ≤ 59 ∧ p.number .seconds ≤ 59 ∧
        p.total < 2 ^ 64 := by
  have hchecks : (∀ k ∈ Check.all, ¬ p.Fails k) ↔
      (¬ p.Fails (.number .days) ∧ ¬ p.Fails (.number .hours) ∧ ¬ p.Fails (.number .minutes) ∧
        ¬ p.Fails (.number .seconds)) ∧
      (¬ p.Fails (.range .hours) ∧ ¬ p.Fails (.range .minutes) ∧ ¬ p.Fails (.range .seconds)) ∧
      ¬ p.Fails .fraction ∧ ¬ p.Fails .total := by
    simp only [Check.all, Check.ofParts, List.cons_append, List.nil_append, List.forall_mem_cons,
      List.not_mem_nil, false_implies, implies_true, and_true, and_assoc]
  have hfits {c : Component} (hnumber : ¬ p.Fails (.number c)) :
      ∀ digits ∈ p.digits? c, IsAscii digits := fun digits hdigits =>
    (fits_of_passed hnumber hdigits).1
  rw [hchecks]
  constructor
  · rintro ⟨⟨hd, hh, hm, hs⟩, ⟨hhours, hminutes, hseconds⟩, hf, htotal⟩
    refine ⟨?_, number_le rfl hhours, number_le rfl hminutes, number_le rfl hseconds,
      Nat.not_le.mp htotal⟩
    intro c
    cases c with
    | days => exact hfits hd
    | hours => exact hfits hh
    | minutes => exact hfits hm
    | seconds => exact hfits hs
    | fraction =>
      intro digits hdigits
      exact Decidable.not_not.mp fun hascii => hf ⟨digits, hdigits, hascii⟩
  · rintro ⟨hascii, hhours, hminutes, hseconds, htotal⟩
    have hrange {c : Component} {limit : Nat} (hlimit : c.limit? = some limit)
        (hle : p.number c ≤ limit) : ¬ p.Fails (.range c) := by
      rintro ⟨other, hother, hlt⟩
      rw [hlimit] at hother
      obtain rfl := Option.some.inj hother
      omega
    -- only the days can be too long for a word, and they are a part of the sum
    refine ⟨⟨?_, ?_, ?_, ?_⟩, ⟨hrange rfl hhours, hrange rfl hminutes, hrange rfl hseconds⟩, ?_,
      Nat.not_le.mpr htotal⟩
    · rintro ⟨digits, hdigits, hfits⟩
      refine hfits ⟨hascii .days digits hdigits, ?_⟩
      have hdays := number_of_digits? hdigits
      rw [Parts.total] at htotal
      omega
    · rintro ⟨digits, hdigits, hfits⟩
      obtain rfl := Option.some.inj hdigits
      exact hfits (fits_of_length (hascii .hours _ rfl) (by have := h.hours.2; omega))
    · rintro ⟨digits, hdigits, hfits⟩
      obtain rfl := Option.some.inj hdigits
      exact hfits (fits_of_length (hascii .minutes _ rfl) (by have := h.minutes.2; omega))
    · rintro ⟨digits, hdigits, hfits⟩
      have hlength := (h.seconds digits hdigits).2
      exact hfits (fits_of_length (hascii .seconds digits hdigits) (by omega))
    · rintro ⟨digits, hdigits, hf⟩
      exact hf (hascii .fraction digits hdigits)

/-! ## Acceptance -/

/-- A text denotes a length of time. -/
inductive Denotes : List Char → Interval → Prop where
  /-- A bare number of days. -/
  | days {digits : List Char} (hne : digits ≠ []) (hascii : IsAscii digits)
      (hfit : 86400 * numeral digits < 2 ^ 64) : Denotes digits ⟨86400 * numeral digits, 0⟩
  /-- `[d.]hh:mm[:ss[.fffffff]]`. -/
  | clock {p : Parts} (hshape : p.IsShaped) (hascii : p.IsAsciiOnly)
      (hhours : p.number .hours ≤ 23) (hminutes : p.number .minutes ≤ 59)
      (hseconds : p.number .seconds ≤ 59) (hfit : p.total < 2 ^ 64) :
      Denotes p.text ⟨p.total, p.nanos⟩

/-- The decimal places of a fraction are less than a second: as many digits as it has denote a
number below the power of ten that they are a part of. -/
theorem nanos_lt_of_isAsciiOnly (h : p.IsShaped) (hascii : p.IsAsciiOnly) : p.nanos < 10 ^ 9 := by
  have hpass : ¬ p.Fails .fraction := by
    rintro ⟨digits, hdigits, hf⟩
    exact hf (hascii .fraction digits hdigits)
  have hticks := ticks_lt h hpass
  have hnanos := ticks_mul h
  omega

/-- What a text denotes has less than a second of nanoseconds, in both kinds. -/
theorem Denotes.nanos_lt {t : List Char} {i : Interval} (h : Denotes t i) : i.nanos < 10 ^ 9 := by
  cases h with
  | days => exact Nat.pow_pos (by decide)
  | clock hshape hascii => exact nanos_lt_of_isAsciiOnly hshape hascii

/-- **A literal is accepted exactly if it denotes a length of time**, which is then its value.  The
cases are the three kinds of literals. -/
theorem ofLiteral_eq_ok_iff {i : Interval} :
    ofLiteral literal = .ok i ↔ Denotes (Text.trim literal.toList) i := by
  constructor
  · intro h
    generalize ht : Text.trim literal.toList = t
    -- A literal that can be read has one of the two shapes; in each the checks decide.
    by_cases hread : IsReadable t
    · rcases hread with ⟨hne, hascii⟩ | ⟨p, hshape, rfl⟩
      · rw [ofLiteral_of_days ht hne hascii] at h
        split at h
        · next hfit =>
          obtain rfl := Except.ok.inj h
          exact .days hne hascii hfit
        · nomatch h
      · rw [ofLiteral_of_shape ht hshape] at h
        obtain ⟨hpass, rfl⟩ := verdict_eq_ok_iff.mp h
        obtain ⟨hascii, hhours, hminutes, hseconds, hfit⟩ := (passes_iff hshape).mp hpass
        exact .clock hshape hascii hhours hminutes hseconds hfit
    · rw [ofLiteral_of_other (ht ▸ hread)] at h
      nomatch h
  · intro h
    generalize ht : Text.trim literal.toList = t at h
    cases h with
    | days hne hascii hfit => rw [ofLiteral_of_days ht hne hascii, if_pos hfit]
    | clock hshape hascii hhours hminutes hseconds hfit =>
      rw [ofLiteral_of_shape ht hshape, verdict_eq_ok_iff]
      exact ⟨(passes_iff hshape).mpr ⟨hascii, hhours, hminutes, hseconds, hfit⟩, rfl⟩

/-! ## The same day count in both forms -/

/-- A number of days behind which the clock stands at zero. -/
def midnight (days : List Char) : Parts :=
  ⟨some days, ['0', '0'], ['0', '0'], none, none⟩

/-- ASCII digits are decimal digits for the shape of a literal. -/
theorem isDecimalDigit_of_isDigit {c : Char} (h : c.isDigit = true) :
    Text.isDecimalDigit c = true := by
  have hrange := Char.isDigit_iff_toNat.mp h
  refine List.any_eq_true.mpr ⟨0x30, List.mem_cons_self, ?_⟩
  rw [Bool.and_eq_true, decide_eq_true_eq, decide_eq_true_eq]
  exact hrange

/-- How a number of days is written with a clock behind it. -/
theorem text_midnight (days : List Char) :
    (midnight days).text = days ++ ['.', '0', '0', ':', '0', '0'] := by
  simp [Parts.text, midnight]

/-- It has the shape of parts: digits of a day, two of an hour and two of a minute. -/
theorem isShaped_midnight (hne : digits ≠ []) (hascii : IsAscii digits) :
    (midnight digits).IsShaped := by
  have hzeros : IsRun ['0', '0'] ∧ ['0', '0'].length ≤ 2 :=
    ⟨⟨List.cons_ne_nil _ _, List.all_eq_true.mp rfl⟩, Nat.le_refl 2⟩
  refine ⟨?_, hzeros, hzeros, (fun _ h => nomatch h), (fun _ h => nomatch h), id⟩
  rintro _ ⟨⟩
  exact ⟨hne, fun c hc => isDecimalDigit_of_isDigit (hascii c hc)⟩

/-- The clock adds nothing to the days. -/
theorem total_midnight (days : List Char) : (midnight days).total = 86400 * numeral days := by
  have hzeros : numeral ['0', '0'] = 0 := rfl
  show 86400 * numeral days + 3600 * numeral ['0', '0'] + 60 * numeral ['0', '0'] + 0 = _
  omega

/-- The only check that it can fail is the one of the sum, which a bare number of days can fail as
well. -/
theorem passes_midnight_iff (hne : digits ≠ []) (hascii : IsAscii digits) :
    (∀ k ∈ Check.all, ¬ (midnight digits).Fails k) ↔ 86400 * numeral digits < 2 ^ 64 := by
  have hzeros : numeral ['0', '0'] = 0 := rfl
  -- The days are the digits that were given, and the clock is four zeros.
  have hdigits : (midnight digits).IsAsciiOnly := by
    intro c other hother
    cases c with
    | days => exact Option.some.inj hother ▸ hascii
    | hours | minutes => exact Option.some.inj hother ▸ isAscii_iff_all.mpr rfl
    | seconds | fraction => nomatch hother
  rw [passes_iff (isShaped_midnight hne hascii), total_midnight]
  constructor
  · rintro ⟨-, -, -, -, hfit⟩
    exact hfit
  · intro hfit
    refine ⟨hdigits, ?_, ?_, Nat.zero_le _, hfit⟩
    · show numeral ['0', '0'] ≤ 23
      omega
    · show numeral ['0', '0'] ≤ 59
      omega

theorem isBlank_of_isDigit {c : Char} (h : c.isDigit = true) : Text.isBlank c = false :=
  Text.isBlank_of_isAlphanum (by rw [Char.isAlphanum, h, Bool.or_true])

/-- A bare number of days is read like the same number with a clock at zero behind it: both are the
sum of the days, or out of range. -/
theorem ofLiteral_midnight (hne : digits ≠ []) (hascii : IsAscii digits) (i : Interval) :
    ofLiteral (String.ofList digits) = .ok i ↔
      ofLiteral (String.ofList (midnight digits).text) = .ok i := by
  -- Neither text has a blank, so trimming leaves both as they are.
  have hbare : Text.trim (String.ofList digits).toList = digits := by
    rw [String.toList_ofList]
    exact Text.trim_eq_self fun c hc => isBlank_of_isDigit (hascii c hc)
  have hclock : Text.trim (String.ofList (midnight digits).text).toList = (midnight digits).text := by
    rw [String.toList_ofList]
    refine Text.trim_eq_self fun c hc => ?_
    rw [text_midnight] at hc
    rcases List.mem_append.mp hc with hc | hc
    · exact isBlank_of_isDigit (hascii c hc)
    · have hclock : (['.', '0', '0', ':', '0', '0'].all (!Text.isBlank ·)) = true := rfl
      exact (Bool.not_eq_true' _).mp (List.all_eq_true.mp hclock c hc)
  rw [ofLiteral_of_days hbare hne hascii, ofLiteral_of_shape hclock (isShaped_midnight hne hascii),
    verdict_eq_ok_iff, passes_midnight_iff hne hascii, Parts.interval, total_midnight]
  by_cases hfit : 86400 * numeral digits < 2 ^ 64
  · rw [if_pos hfit, and_iff_right hfit, Except.ok.injEq]
    rfl
  · rw [if_neg hfit]
    exact ⟨(fun h => nomatch h), fun h => absurd h.1 hfit⟩

/-! ## The whole of it -/

/-- **A literal is accepted exactly if it denotes a length of time, blanks at its ends aside.**  The
nanoseconds are always less than a second.  Where the numbers of a literal are computed with, no word
leaves its range: the sums and products are those of the numbers, and nothing is carried from the
nanoseconds to the seconds.  A bare number of days and the same number with a clock at zero behind it
are accepted alike, with the same value. -/
theorem ofLiteral_accepts :
    (∀ (literal : String) (i : Interval),
      ofLiteral literal = .ok i ↔ Denotes (Text.trim literal.toList) i) ∧
    (∀ (literal : String) (i : Interval), ofLiteral literal = .ok i → i.nanos < 10 ^ 9) ∧
    (∀ (literal : String) (p : Parts) (n : Numbers),
      Parts.ofText? (Text.trim literal.toList) = some p → p.numbers literal = .ok n →
      n.IsExact ∧ ∀ total, n.total? = some total →
        total.toNat = n.days.toNat * 86400 + n.clock.toNat ∧
        ofWords total n.nanos.toUInt32 = ⟨total.toNat, n.nanos.toNat⟩) ∧
    (∀ days total : UInt64, times? days daySeconds = some total →
      total.toNat = days.toNat * 86400 ∧ ofWords total 0 = ⟨total.toNat, 0⟩) ∧
    ∀ days : List Char, days ≠ [] → IsAscii days → ∀ i : Interval,
      ofLiteral (String.ofList days) = .ok i ↔
        ofLiteral (String.ofList (days ++ ['.', '0', '0', ':', '0', '0'])) = .ok i := by
  refine ⟨fun literal i => ofLiteral_eq_ok_iff, ?_, ?_, ?_, ?_⟩
  · intro literal i h
    exact (ofLiteral_eq_ok_iff.mp h).nanos_lt
  · intro literal p n hparts hnumbers
    -- The numbers are the words of the parts, and those that passed their checks are exact.
    have hshape := (Parts.ofText?_eq_some_iff.mp hparts).1
    rw [numbers_eq_verdict hshape, verdict_eq_ok_iff] at hnumbers
    obtain ⟨hpass, rfl⟩ := hnumbers
    have hexact := isExact_words hshape hpass
    refine ⟨hexact, fun total htotal => ⟨?_, ?_⟩⟩
    · rw [Numbers.total?_eq, word?_eq_some_iff] at htotal
      exact htotal
    · have hlt : p.words.nanos.toUInt32.toNat < 10 ^ 9 := by
        rw [hexact.nanos_narrow]
        exact hexact.nanos_lt
      rw [ofWords_of_lt total hlt, hexact.nanos_narrow]
  · intro days total htotal
    exact ⟨word?_eq_some_iff.mp htotal, ofWords_of_lt total (by decide)⟩
  · intro days hne hascii i
    rw [← text_midnight]
    exact ofLiteral_midnight hne hascii i

end RouteIndex.Interval
