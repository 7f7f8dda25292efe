/-
  Which interval literals are refused, and for what.

  A literal is malformed if it has none of the two forms; the digits of the form with parts may be those
  of any script.  A literal that has a form is out of range in the first of its parts that fails a
  check, in the order of `Check.all`: all parts must be numbers before any of them must be in its range,
  the fraction comes behind them, and the sum, which is blamed on the days, at the end.

  **`ofLiteral_refuses`** says this of each of the three kinds of literals.  A bare run of digits that
  are not all ASCII digits is malformed: only with a clock behind them are such digits days
  (`not_isReadable_of_run`).
-/

import RouteIndex.Proofs.Interval.Acceptance

namespace RouteIndex.Interval

variable {literal : String} {p : Parts} {digits : List Char}

/-- A literal is malformed exactly if it is not readable, and the error has this literal and no
other one. -/
theorem ofLiteral_eq_malformed_iff {other : String} :
    ofLiteral literal = .error (.malformed other) ↔
      other = literal ∧ ¬ IsReadable (Text.trim literal.toList) := by
  constructor
  · intro h
    by_cases hread : IsReadable (Text.trim literal.toList)
    · -- what has a form is at most out of range
      rcases hread with ⟨hne, hascii⟩ | ⟨p, hshape, ht⟩
      · rw [ofLiteral_of_days rfl hne hascii] at h
        split at h
        · nomatch h
        · nomatch h
      · rw [ofLiteral_of_shape ht.symm hshape] at h
        obtain ⟨k, -, hk⟩ := verdict_eq_error_iff.mp h
        nomatch hk
    · rw [ofLiteral_of_other hread] at h
      obtain rfl := Error.malformed.inj (Except.error.inj h)
      exact ⟨rfl, hread⟩
  · rintro ⟨rfl, hread⟩
    exact ofLiteral_of_other hread

/-- A bare number of days has only one way to fail, which is blamed on the days. -/
theorem ofLiteral_eq_error_iff_of_days {e : Error} (hne : Text.trim literal.toList ≠ [])
    (hascii : IsAscii (Text.trim literal.toList)) :
    ofLiteral literal = .error e ↔
      2 ^ 64 ≤ 86400 * numeral (Text.trim literal.toList) ∧ e = .outOfRange literal .days := by
  rw [ofLiteral_of_days rfl hne hascii]
  by_cases hfit : 86400 * numeral (Text.trim literal.toList) < 2 ^ 64
  · rw [if_pos hfit]
    exact ⟨(fun h => nomatch h), fun h => absurd hfit (Nat.not_lt.mpr h.1)⟩
  · rw [if_neg hfit, and_iff_right (Nat.not_lt.mp hfit), Except.error.injEq, eq_comm]

/-- A run of digits that are not all ASCII digits has no form. -/
theorem not_isReadable_of_run (h : IsRun digits) (hascii : ¬ IsAscii digits) :
    ¬ IsReadable digits := by
  rintro (⟨-, hdigits⟩ | ⟨p, -, rfl⟩)
  · exact hascii hdigits
  · exact absurd (h.digits ':' (colon_mem_text p)) (by decide)

/-- **A literal is refused for the first thing that is wrong with it.**  It is malformed if it is
neither a number of days in ASCII digits nor of the shape `[d.]hh:mm[:ss[.fffffff]]` in digits of any
script.  A number of days is refused if its seconds do not fit in sixty-four bits.  Parts are refused
for the first check that they fail.  Every error carries the literal with the blanks at its ends, and a
bare run of other digits is malformed. -/
theorem ofLiteral_refuses :
    (∀ literal other : String, ofLiteral literal = .error (.malformed other) ↔
      other = literal ∧ ¬ IsReadable (Text.trim literal.toList)) ∧
    (∀ (literal : String) (e : Error), Text.trim literal.toList ≠ [] →
      IsAscii (Text.trim literal.toList) →
      (ofLiteral literal = .error e ↔
        2 ^ 64 ≤ 86400 * numeral (Text.trim literal.toList) ∧ e = .outOfRange literal .days)) ∧
    (∀ (literal : String) (p : Parts) (e : Error), p.IsShaped →
      p.text = Text.trim literal.toList →
      (ofLiteral literal = .error e ↔
        ∃ k, [.number .days, .number .hours, .number .minutes, .number .seconds, .range .hours,
            .range .minutes, .range .seconds, .fraction, .total].find? (p.Fails ·) = some k ∧
          e = .outOfRange literal k.component)) ∧
    ∀ literal : String, IsRun (Text.trim literal.toList) → ¬ IsAscii (Text.trim literal.toList) →
      ofLiteral literal = .error (.malformed literal) := by
  refine ⟨fun literal other => ofLiteral_eq_malformed_iff,
    fun literal e hne hascii => ofLiteral_eq_error_iff_of_days hne hascii, ?_, ?_⟩
  · intro literal p e hshape ht
    rw [ofLiteral_of_shape ht.symm hshape]
    exact verdict_eq_error_iff
  · intro literal hrun hascii
    exact ofLiteral_of_other (not_isReadable_of_run hrun hascii)

end RouteIndex.Interval
