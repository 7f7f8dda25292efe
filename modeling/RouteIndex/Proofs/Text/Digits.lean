/-
  Decimal digits, written and read again.

  `digitsOf` writes a number and `readNumber?` reads it; for integers the pair is `integerDigits` and
  `readInteger?`.  Both readers give back what was written, and the written form is the canonical
  one: digits only, at least one, and no zero in front unless the number is zero.

  The readers take more than the written form: zeros in front, and either sign.  What they take is
  `IsNumeral` and `IsIntegerNumeral` (`readInteger?_eq_some_iff`).
-/

import RouteIndex.Text.Digit

namespace RouteIndex.Text

/-! ## Numbers -/

/-- A number is written with ASCII digits only. -/
theorem isDigit_of_mem_digitsOf {n : Nat} {c : Char} (h : c ∈ digitsOf n) : c.isDigit = true :=
  Nat.isDigit_of_mem_toDigits (by decide) (by decide) h

/-- Zero is written too, so there is always a digit. -/
theorem digitsOf_ne_nil (n : Nat) : digitsOf n ≠ [] :=
  Nat.toDigits_ne_nil

theorem all_isDigit_digitsOf (n : Nat) : (digitsOf n).all Char.isDigit = true := by
  rw [List.all_eq_true]
  intro c hc
  exact isDigit_of_mem_digitsOf hc

/-- **A number that is written is read back.** -/
theorem readNumber?_digitsOf (n : Nat) : readNumber? (digitsOf n) = some n := by
  have hne : (digitsOf n).isEmpty = false := by
    rw [List.isEmpty_eq_false_iff]
    exact digitsOf_ne_nil n
  rw [readNumber?, all_isDigit_digitsOf, hne]
  exact congrArg some Nat.ofDigitChars_ten_toDigits

/-- A number that is not zero has no zero in front.  The integers of a JSON text may not have one
either. -/
theorem digitsOf_eq_cons_of_pos (n : Nat) (h : 0 < n) :
    ∃ c cs, digitsOf n = c :: cs ∧ c ≠ '0' := by
  by_cases hn : n < 10
  · refine ⟨n.digitChar, [], Nat.toDigits_of_lt_base hn, ?_⟩
    rw [ne_eq, Nat.digitChar_eq_zero]
    omega
  · obtain ⟨c, cs, hcs, hc⟩ := digitsOf_eq_cons_of_pos (n / 10) (by omega)
    refine ⟨c, cs ++ [Nat.digitChar (n % 10)], ?_, hc⟩
    show Nat.toDigits 10 n = _
    rw [Nat.toDigits_of_base_le (by decide) (by omega)]
    show digitsOf (n / 10) ++ _ = _
    rw [hcs, List.cons_append]
termination_by n
decreasing_by omega

/-- The run of digits at the front of a written number ends with the number, if what follows begins
with another character. -/
theorem takeWhile_digitsOf_append (n : Nat) {rest : List Char}
    (h : ∀ c ∈ rest.head?, c.isDigit = false) :
    (digitsOf n ++ rest).takeWhile Char.isDigit = digitsOf n := by
  rw [List.takeWhile_append_of_pos (fun c hc => isDigit_of_mem_digitsOf hc)]
  cases rest with
  | nil => simp
  | cons c cs => simp [h c rfl]

/-- What is left behind the run is what followed the number. -/
theorem dropWhile_digitsOf_append (n : Nat) {rest : List Char}
    (h : ∀ c ∈ rest.head?, c.isDigit = false) :
    (digitsOf n ++ rest).dropWhile Char.isDigit = rest := by
  rw [List.dropWhile_append_of_pos (fun c hc => isDigit_of_mem_digitsOf hc)]
  cases rest with
  | nil => rfl
  | cons c cs => simp [h c rfl]

/-! ## Integers -/

/-- A text of digits has no sign to be read. -/
theorem readInteger?_of_digits {cs : List Char} (h : cs.all Char.isDigit = true) :
    readInteger? cs = (readNumber? cs).map Int.ofNat := by
  cases cs with
  | nil => rfl
  | cons c cs =>
    rw [List.all_cons, Bool.and_eq_true] at h
    have hminus : c ≠ '-' := by rintro rfl; exact absurd h.1 (by decide)
    have hplus : c ≠ '+' := by rintro rfl; exact absurd h.1 (by decide)
    -- No digit is a sign, so only the unsigned case is left.
    unfold readInteger?
    split
    · rename_i heq
      exact absurd (List.cons.inj heq).1 hminus
    · rename_i heq
      exact absurd (List.cons.inj heq).1 hplus
    · rfl

/-- A written integer has digits and perhaps a minus sign, so it has neither quotes nor commas nor
line feeds. -/
theorem minus_or_isDigit_of_mem_integerDigits {i : Int} {c : Char} (h : c ∈ integerDigits i) :
    c = '-' ∨ c.isDigit = true := by
  cases i with
  | ofNat n => exact Or.inr (isDigit_of_mem_digitsOf h)
  | negSucc n =>
    rcases List.mem_cons.mp h with h | h
    · exact Or.inl h
    · exact Or.inr (isDigit_of_mem_digitsOf h)

theorem integerDigits_ne_nil (i : Int) : integerDigits i ≠ [] := by
  cases i with
  | ofNat n => exact digitsOf_ne_nil n
  | negSucc n => exact List.cons_ne_nil _ _

/-- **An integer that is written is read back.** Below zero the minus is read first, and then the
digits of what is left. -/
theorem readInteger?_integerDigits (i : Int) : readInteger? (integerDigits i) = some i := by
  cases i with
  | ofNat n =>
    show readInteger? (digitsOf n) = _
    rw [readInteger?_of_digits (all_isDigit_digitsOf n), readNumber?_digitsOf]
    rfl
  | negSucc n =>
    simp only [integerDigits, readInteger?, readNumber?_digitsOf]
    rfl

/-! ## What is read -/

/-- One or more ASCII digits, and the number that they denote. -/
structure IsNumeral (digits : List Char) (n : Nat) : Prop where
  ne_nil : digits ≠ []
  isDigit : ∀ c ∈ digits, c.isDigit = true
  value : Nat.ofDigitChars 10 digits 0 = n

/-- A numeral behind one sign or none, and the integer that it denotes. -/
inductive IsIntegerNumeral : List Char → Int → Prop where
  | unsigned {digits : List Char} {n : Nat} (h : IsNumeral digits n) : IsIntegerNumeral digits n
  | plus {digits : List Char} {n : Nat} (h : IsNumeral digits n) :
      IsIntegerNumeral ('+' :: digits) n
  | minus {digits : List Char} {n : Nat} (h : IsNumeral digits n) :
      IsIntegerNumeral ('-' :: digits) (-n)

/-- A number is read from one or more ASCII digits, and from nothing else.  Zeros in front are
allowed, so the written form is not the only one. -/
theorem readNumber?_eq_some_iff {cs : List Char} {n : Nat} :
    readNumber? cs = some n ↔ IsNumeral cs n := by
  unfold readNumber?
  constructor
  · intro h
    split at h
    · next hdigits =>
      rw [Bool.and_eq_true, Bool.not_eq_true', List.isEmpty_eq_false_iff, List.all_eq_true] at hdigits
      exact ⟨hdigits.1, hdigits.2, Option.some.inj h⟩
    · nomatch h
  · rintro ⟨hne, hdigits, rfl⟩
    refine if_pos ?_
    rw [Bool.and_eq_true, Bool.not_eq_true', List.isEmpty_eq_false_iff, List.all_eq_true]
    exact ⟨hne, hdigits⟩

/-- **An integer is read from a numeral behind one sign or none**, and from nothing else.  The cases
are those of the first character. -/
theorem readInteger?_eq_some_iff {cs : List Char} {i : Int} :
    readInteger? cs = some i ↔ IsIntegerNumeral cs i := by
  constructor
  · intro h
    unfold readInteger? at h
    split at h
    · obtain ⟨i, hi, rfl⟩ := Option.map_eq_some_iff.mp h
      obtain ⟨n, hn, hvalue⟩ := Option.bind_eq_some_iff.mp hi
      obtain rfl := Option.some.inj hvalue
      exact .minus (readNumber?_eq_some_iff.mp hn)
    · obtain ⟨n, hn, rfl⟩ := Option.map_eq_some_iff.mp h
      exact .plus (readNumber?_eq_some_iff.mp hn)
    · obtain ⟨n, hn, rfl⟩ := Option.map_eq_some_iff.mp h
      exact .unsigned (readNumber?_eq_some_iff.mp hn)
  · intro h
    cases h with
    | unsigned h =>
      rw [readInteger?_of_digits (List.all_eq_true.mpr h.isDigit), readNumber?_eq_some_iff.mpr h]
      rfl
    | plus h =>
      rw [readInteger?, readNumber?_eq_some_iff.mpr h]
      rfl
    | minus h =>
      rw [readInteger?, readNumber?_eq_some_iff.mpr h]
      rfl

end RouteIndex.Text
