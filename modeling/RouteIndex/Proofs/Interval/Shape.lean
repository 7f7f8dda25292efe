/-
  The shape of interval literals.

  A literal that is no bare number of days is cut into runs of digits of any script.  `Parts.IsShaped`
  says which parts `[d.]hh:mm[:ss[.fffffff]]` allows, and `Parts.text` how they are written.

  1. **Runs** — a run of digits in front of a text ends with the first other character, and that is
     all there is to it (`digitRun_eq_iff`).
  2. **Clock** — the parts from the hours on are found exactly in the texts that they are written as
     (`clock?_eq_some_iff`), because no separator is a digit.
  3. **`ofText?_eq_some_iff`** — so are all parts: reading is the inverse of writing, on the parts that
     have the shape.
-/

import RouteIndex.Interval

namespace RouteIndex.Interval

/-! ## Runs -/

/-- One or more digits of any script. -/
structure IsRun (cs : List Char) : Prop where
  ne_nil : cs ≠ []
  digits : ∀ c ∈ cs, Text.isDecimalDigit c = true

/-- A run of digits that is followed by no other digit is cut off in front. -/
theorem digitRun_append {ds rest : List Char} (hds : ∀ c ∈ ds, Text.isDecimalDigit c = true)
    (hrest : ∀ c ∈ rest.head?, Text.isDecimalDigit c = false) : digitRun (ds ++ rest) = (ds, rest) := by
  rw [digitRun, List.takeWhile_append_of_pos hds, List.dropWhile_append_of_pos hds]
  cases rest with
  | nil => rw [List.takeWhile_nil, List.dropWhile_nil, List.append_nil]
  | cons c rest =>
    have hc : ¬ Text.isDecimalDigit c = true := by
      rw [hrest c rfl]
      exact Bool.false_ne_true
    rw [List.takeWhile_cons_of_neg hc, List.dropWhile_cons_of_neg hc, List.append_nil]

/-- Digits up to the end of the text are one run. -/
theorem digitRun_of_digits {ds : List Char} (hds : ∀ c ∈ ds, Text.isDecimalDigit c = true) :
    digitRun ds = (ds, []) := by
  have hrun : digitRun (ds ++ []) = (ds, []) := digitRun_append hds fun _ h => nomatch h
  rwa [List.append_nil] at hrun

/-- A run ends with the first other character, and that is all there is to it. -/
theorem digitRun_eq_iff {cs ds rest : List Char} :
    digitRun cs = (ds, rest) ↔
      ds ++ rest = cs ∧ (∀ c ∈ ds, Text.isDecimalDigit c = true) ∧
        ∀ c ∈ rest.head?, Text.isDecimalDigit c = false := by
  constructor
  · intro h
    obtain ⟨rfl, rfl⟩ := Prod.mk.inj h
    refine ⟨List.takeWhile_append_dropWhile, List.all_eq_true.mp List.all_takeWhile, ?_⟩
    intro c hc
    have hhead := List.head?_dropWhile_not Text.isDecimalDigit cs
    rw [Option.mem_def.mp hc] at hhead
    exact hhead
  · rintro ⟨rfl, hds, hrest⟩
    exact digitRun_append hds hrest

/-- A separator ends a run, for it is a digit of no script. -/
theorem head?_colon {rest : List Char} :
    ∀ c ∈ (':' :: rest).head?, Text.isDecimalDigit c = false := by
  rintro c hc
  obtain rfl : ':' = c := Option.some.inj hc
  decide

theorem head?_point {rest : List Char} :
    ∀ c ∈ ('.' :: rest).head?, Text.isDecimalDigit c = false := by
  rintro c hc
  obtain rfl : '.' = c := Option.some.inj hc
  decide

/-- A number of the clock has one digit or two. -/
theorem isClockNumber_iff {digits : List Char} :
    isClockNumber digits = true ↔ digits ≠ [] ∧ digits.length ≤ 2 := by
  rw [isClockNumber, Bool.or_eq_true, beq_iff_eq, beq_iff_eq, ne_eq, ← List.length_eq_zero_iff]
  omega

/-! ## Parts -/

/-- The parts of `[d.]hh:mm[:ss[.fffffff]]`. -/
structure Parts.IsShaped (p : Parts) : Prop where
  days : ∀ digits ∈ p.days, IsRun digits
  hours : IsRun p.hours ∧ p.hours.length ≤ 2
  minutes : IsRun p.minutes ∧ p.minutes.length ≤ 2
  seconds : ∀ digits ∈ p.seconds, IsRun digits ∧ digits.length ≤ 2
  fraction : ∀ digits ∈ p.fraction, IsRun digits ∧ digits.length ≤ 7
  /-- A fraction is one of the seconds. -/
  seconds_of_fraction : p.fraction.isSome = true → p.seconds.isSome = true

/-- The text of the parts from the hours on. -/
def Parts.clockText (p : Parts) : List Char :=
  p.hours ++ ':' :: p.minutes ++
  (match p.seconds with
    | some seconds => ':' :: seconds
    | none => []) ++
  (match p.fraction with
    | some fraction => '.' :: fraction
    | none => [])

/-- A text with days has a point between them and the clock. -/
theorem Parts.text_of_days (p : Parts) {days : List Char} (h : p.days = some days) :
    p.text = days ++ '.' :: p.clockText := by
  obtain ⟨_, hours, minutes, seconds, fraction⟩ := p
  subst h
  cases seconds <;> cases fraction <;> simp [text, clockText]

theorem Parts.text_of_no_days (p : Parts) (h : p.days = none) : p.text = p.clockText := by
  obtain ⟨_, hours, minutes, seconds, fraction⟩ := p
  subst h
  rfl

/-- A run that is short enough is a number of the clock. -/
theorem isClockNumber_of {digits : List Char} (h : IsRun digits ∧ digits.length ≤ 2) :
    isClockNumber digits = true :=
  isClockNumber_iff.mpr ⟨h.1.ne_nil, h.2⟩

/-- What is read as a number of the clock is a run that is short enough. -/
theorem isRun_of_isClockNumber {digits : List Char} (h : isClockNumber digits = true)
    (hdigits : ∀ c ∈ digits, Text.isDecimalDigit c = true) : IsRun digits ∧ digits.length ≤ 2 :=
  ⟨⟨(isClockNumber_iff.mp h).1, hdigits⟩, (isClockNumber_iff.mp h).2⟩

/-- What is read as a clock is one, and is written like that.  The reader goes from separator to
separator, and each of its cases gives one part. -/
theorem Parts.isShaped_of_clock? {days : Option (List Char)} {cs : List Char} {p : Parts}
    (hdays : ∀ digits ∈ days, IsRun digits) (h : clock? days cs = some p) :
    p.IsShaped ∧ p.days = days ∧ p.clockText = cs := by
  have hnone (limit : Nat) : ∀ digits ∈ (none : Option (List Char)),
      IsRun digits ∧ digits.length ≤ limit := fun _ h => nomatch h
  unfold clock? at h
  split at h
  rename_i hours rest hrun
  obtain ⟨rfl, hhours, -⟩ := digitRun_eq_iff.mp hrun
  split at h
  · split at h
    rename_i minutes rest hrun
    obtain ⟨rfl, hminutes, -⟩ := digitRun_eq_iff.mp hrun
    split at h
    · rename_i hclock
      obtain ⟨hh, hm⟩ := Bool.and_eq_true_iff.mp hclock
      have hh' := isRun_of_isClockNumber hh hhours
      have hm' := isRun_of_isClockNumber hm hminutes
      split at h
      · -- hours and minutes only
        obtain rfl := Option.some.inj h
        exact ⟨⟨hdays, hh', hm', hnone 2, hnone 7, Bool.false_ne_true.elim⟩, rfl,
          by simp [clockText]⟩
      · split at h
        rename_i seconds rest hrun
        obtain ⟨rfl, hseconds, -⟩ := digitRun_eq_iff.mp hrun
        split at h
        · rename_i hclock
          have hs' : ∀ digits ∈ some seconds, IsRun digits ∧ digits.length ≤ 2 := by
            rintro _ ⟨⟩
            exact isRun_of_isClockNumber hclock hseconds
          split at h
          · -- seconds without a fraction
            obtain rfl := Option.some.inj h
            exact ⟨⟨hdays, hh', hm', hs', hnone 7, fun _ => rfl⟩, rfl, by simp [clockText]⟩
          · -- seconds with a fraction
            split at h
            rename_i fraction rest hrun
            obtain ⟨rfl, hfraction, -⟩ := digitRun_eq_iff.mp hrun
            split at h
            · rename_i hend
              obtain rfl := Option.some.inj h
              simp only [Bool.and_eq_true, List.isEmpty_iff, Bool.not_eq_true',
                List.isEmpty_eq_false_iff, decide_eq_true_eq] at hend
              obtain ⟨⟨rfl, hne⟩, hlength⟩ := hend
              have hf' : ∀ digits ∈ some fraction, IsRun digits ∧ digits.length ≤ 7 := by
                rintro _ ⟨⟩
                exact ⟨⟨hne, hfraction⟩, hlength⟩
              exact ⟨⟨hdays, hh', hm', hs', hf', fun _ => rfl⟩, rfl, by simp [clockText]⟩
            · nomatch h
          · nomatch h
        · nomatch h
      · nomatch h
    · nomatch h
  · nomatch h

/-- A clock is read as what it is: every run in it is followed by a separator or by the end of the
text. -/
theorem Parts.IsShaped.clock?_clockText {p : Parts} (h : p.IsShaped) :
    clock? p.days p.clockText = some p := by
  obtain ⟨days, hours, minutes, seconds, fraction⟩ := p
  have hclock : (isClockNumber hours && isClockNumber minutes) = true :=
    Bool.and_eq_true_iff.mpr ⟨isClockNumber_of h.hours, isClockNumber_of h.minutes⟩
  have hhours (rest : List Char) : digitRun (hours ++ ':' :: rest) = (hours, ':' :: rest) :=
    digitRun_append h.hours.1.digits head?_colon
  -- Each number ends at the sign behind it, so the runs of digits are read one after the other.
  cases seconds with
  | none =>
    cases fraction with
    | none =>
      have hminutes := digitRun_of_digits h.minutes.1.digits
      have htext : clockText ⟨days, hours, minutes, none, none⟩ = hours ++ ':' :: minutes := by
        simp [clockText]
      rw [htext, clock?, hhours]
      simp only [hminutes, hclock, if_true]
    | some fraction => exact absurd (h.seconds_of_fraction rfl) Bool.false_ne_true
  | some seconds =>
    have hseconds := h.seconds seconds rfl
    have hminutes (rest : List Char) : digitRun (minutes ++ ':' :: rest) = (minutes, ':' :: rest) :=
      digitRun_append h.minutes.1.digits head?_colon
    cases fraction with
    | none =>
      have hrun := digitRun_of_digits hseconds.1.digits
      have htext : clockText ⟨days, hours, minutes, some seconds, none⟩ =
          hours ++ ':' :: (minutes ++ ':' :: seconds) := by
        simp [clockText]
      rw [htext, clock?, hhours]
      simp only [hminutes, hclock, if_true, hrun, isClockNumber_of hseconds]
    | some fraction =>
      have hfraction := h.fraction fraction rfl
      have hrun : digitRun (seconds ++ '.' :: fraction) = (seconds, '.' :: fraction) :=
        digitRun_append hseconds.1.digits head?_point
      have hlast := digitRun_of_digits hfraction.1.digits
      have htext : clockText ⟨days, hours, minutes, some seconds, some fraction⟩ =
          hours ++ ':' :: (minutes ++ ':' :: (seconds ++ '.' :: fraction)) := by
        simp [clockText]
      have hend : (([] : List Char).isEmpty && !fraction.isEmpty && decide (fraction.length ≤ 7)) =
          true := by
        simp [hfraction.1.ne_nil, hfraction.2]
      rw [htext, clock?, hhours]
      simp only [hminutes, hclock, if_true, hrun, isClockNumber_of hseconds, hlast, hend]

/-- A clock begins with its hours, behind which there is no point.  So hours are never taken for
days. -/
theorem Parts.IsShaped.digitRun_clockText {p : Parts} (h : p.IsShaped) :
    ∃ rest, digitRun p.clockText = (p.hours, ':' :: rest) := by
  rw [clockText, List.append_assoc, List.append_assoc]
  exact ⟨_, digitRun_append h.hours.1.digits head?_colon⟩

/-- **Reading is the inverse of writing**: the parts of a text are the parts of the right shape that
are written as this text. -/
theorem Parts.ofText?_eq_some_iff {cs : List Char} {p : Parts} :
    ofText? cs = some p ↔ p.IsShaped ∧ p.text = cs := by
  constructor
  · intro h
    unfold ofText? at h
    split at h
    rename_i run rest hrun
    split at h
    · -- a point behind the first run, which are the days
      obtain ⟨rfl, hdigits, -⟩ := digitRun_eq_iff.mp hrun
      split at h
      · nomatch h
      · rename_i hne
        have hdays : ∀ digits ∈ some run, IsRun digits := by
          rintro _ ⟨⟩
          exact ⟨fun h => hne (List.isEmpty_iff.mpr h), hdigits⟩
        obtain ⟨hshape, hp, htext⟩ := isShaped_of_clock? hdays h
        rw [p.text_of_days hp, htext]
        exact ⟨hshape, rfl⟩
    · have hnone : ∀ digits ∈ (none : Option (List Char)), IsRun digits := fun _ h => nomatch h
      obtain ⟨hshape, hp, htext⟩ := isShaped_of_clock? hnone h
      rw [p.text_of_no_days hp, htext]
      exact ⟨hshape, rfl⟩
  · rintro ⟨h, rfl⟩
    have hclock := h.clock?_clockText
    cases hdays : p.days with
    | none =>
      obtain ⟨rest, hrun⟩ := h.digitRun_clockText
      rw [hdays] at hclock
      rw [p.text_of_no_days hdays, ofText?, hrun]
      exact hclock
    | some days =>
      have hrun := h.days days hdays
      have hempty : days.isEmpty = false := List.isEmpty_eq_false_iff.mpr hrun.ne_nil
      rw [hdays] at hclock
      rw [p.text_of_days hdays, ofText?, digitRun_append hrun.digits head?_point]
      simp only [hempty]
      exact hclock

end RouteIndex.Interval
